import OperatorConsole.Invocation.Basic
import OperatorConsole.Proofs.Catalog.Merging
import OperatorConsole.Proofs.Steps
import OperatorConsole.Proofs.Text.Parts

/-!
Loading catalogs. A reference mentions a module and a path of attributes and refers to what the path leads
to. That offers the services of a catalog or of clients, or is a function and offers what it gives. Main
results: loading gives a catalog or a fault of the catalog, unless the module is named relative to no package,
or what is imported, asked for an attribute, called or described raises something else; and the services that
are loaded are the built-in ones and those that are offered, in the order in which their clients first occur
and the last one of each.
-/
namespace OperatorConsole

/-! ### Modules -/

namespace Modules

/-- Importing what names mean, the innermost one first, comes to a module: it was imported before, or the
packages around it are imported first. -/
inductive Reaches (modules : Modules) : List (List Char) → Module → Prop
  | loaded {inner : List Char} {outer : List (List Char)} {m : Module}
      (hm : modules.lookup (moduleName (inner :: outer)) = some m) (hloaded : m.isLoaded = true) :
      Reaches modules (inner :: outer) m
  | outermost {name : List Char} {m : Module} (hm : modules.lookup (moduleName [name]) = some m) :
      Reaches modules [name] m
  | inside {inner : List Char} {outer : List (List Char)} {m package : Module}
      {attributes : List (String × Thing)}
      (hm : modules.lookup (moduleName (inner :: outer)) = some m)
      (houter : Reaches modules outer package) (hattributes : package.attributes = .ok attributes)
      (hpackage : package.isPackage = true) : Reaches modules (inner :: outer) m

/-- The names mean a module that was imported before. -/
def IsLoaded (modules : Modules) (names : List (List Char)) : Prop :=
  ∃ m, modules.lookup (moduleName names) = some m ∧ m.isLoaded = true

/-- Importing what names mean raises something: in the module itself, or in one around it that is imported
first. -/
inductive Raises (modules : Modules) : List (List Char) → Raised → Prop
  | here {names : List (List Char)} {m : Module} {e : Raised} (hreaches : Reaches modules names m)
      (he : m.attributes = .error e) : Raises modules names e
  | around {inner : List Char} {outer : List (List Char)} {e : Raised}
      (hnew : ¬ modules.IsLoaded (inner :: outer)) (houter : Raises modules outer e) :
      Raises modules (inner :: outer) e

end Modules

/-- What is raised by an import is neither a fault of the catalog nor that a module cannot be imported, and
so is what is raised in place of the text of the latter. -/
def Raised.EscapesImport (e : Raised) : Prop :=
  e.nature ≠ .catalog ∧ (e.nature = .importing → ∃ t, e.text = .error t ∧ t.nature ≠ .catalog)

/-! ### What a reference refers to -/

/-- A reference mentions a module by a name and attributes by a path: what stands in front of its first colon
and behind it, without white space around it, and neither is empty. -/
structure Mentions (reference : String) (name path : List Char) : Prop where
  parts : ∃ before after, reference.toList = before ++ ':' :: after ∧ ':' ∉ before ∧
    Text.strip before = name ∧ Text.strip after = path
  name_ne_nil : name ≠ []
  path_ne_nil : path ≠ []

/-- A reference imports the module that it mentions, which is not named relative to a package; a path leads
on from there. -/
inductive Imports (modules : Modules) (reference : String) : Thing → List Char → Prop
  | intro {name path : List Char} {m : Module} {attributes : List (String × Thing)}
      (hmentions : Mentions reference name path) (hname : name.head? ≠ some '.')
      (hreaches : modules.Reaches (Text.splitAt '.' name).reverse m)
      (hattributes : m.attributes = .ok attributes) :
      Imports modules reference (.library (String.ofList name) attributes) path

namespace Thing

/-- A thing has another one under a name. -/
def Has (t : Thing) (name : List Char) (u : Thing) : Prop :=
  t.attribute? (String.ofList name) = some u ∧ ∀ e, u ≠ .raising e

/-- A path of names leads from a thing to another one, each name to an attribute. -/
inductive Leads : Thing → List (List Char) → Thing → Prop
  | here (t : Thing) : Leads t [] t
  | attribute {t found u : Thing} {name : List Char} {names : List (List Char)}
      (h : t.Has name found) (hrest : Leads found names u) : Leads t (name :: names) u

/-- On a path of names from a thing an attribute raises something when it is asked for. -/
inductive Stops : Thing → List (List Char) → Raised → Prop
  | here {t : Thing} {name : List Char} {names : List (List Char)} {e : Raised}
      (h : t.attribute? (String.ofList name) = some (.raising e)) : Stops t (name :: names) e
  | later {t found : Thing} {name : List Char} {names : List (List Char)} {e : Raised}
      (h : t.Has name found) (hrest : Stops found names e) : Stops t (name :: names) e

/-- The thing is a client. -/
def IsClient (t : Thing) (c : Client) : Prop := ∃ own, t = .client c own

/-- The thing is a collection and cannot be called. -/
inductive HasParts : Thing → List Thing → Prop
  | items (typeName : String) (parts : List Thing) : HasParts (.items typeName parts) parts
  | object (typeName title : String) (attributes : List (String × Thing)) (parts : List Thing) :
      HasParts (.object typeName title attributes none (some parts)) parts

/-- The thing is called and gives another one, or fails. -/
inductive Gives : Thing → Except CallFault Thing → Prop
  | function (typeName : String) (result : Except CallFault Thing) :
      Gives (.function typeName result) result
  | object (typeName title : String) (attributes : List (String × Thing))
      (result : Except CallFault Thing) (parts : Option (List Thing)) :
      Gives (.object typeName title attributes (some result) parts) result

/-- The services that a thing offers, as they are given: those of a catalog, of a client, of clients in a
collection, all of which can be described, or those that are offered by what a function gives. -/
inductive Offers : Thing → List Service → Prop
  | catalog (c : Catalog) : Offers (.catalog c) c.services
  | client {c : Client} {own : List (String × Thing)} (hc : c.unresolved? = none) :
      Offers (.client c own) [c.service]
  | parts {t : Thing} {parts : List Thing} {clients : List Client} (ht : t.HasParts parts)
      (hparts : List.Forall₂ IsClient parts clients) (hclients : ∀ c ∈ clients, c.unresolved? = none) :
      Offers t (clients.map (·.service))
  | result {t u : Thing} {services : List Service} (ht : t.Gives (.ok u)) (h : Offers u services) :
      Offers t services

/-- Something is raised when a thing is made a catalog of: by a function that is called, when the parts of a
collection are asked for, or when the first client that cannot be described is described. -/
inductive Breaks : Thing → CallFault → Prop
  | client {c : Client} {own : List (String × Thing)} {e : Raised} (hc : c.unresolved? = some e) :
      Breaks (.client c own) (.raised e)
  | listing {t : Thing} {parts : List Thing} {e : Raised} (ht : t.HasParts parts)
      (hparts : raised? parts = some e) : Breaks t (.raised e)
  | parts {t : Thing} {parts : List Thing} {clients : List Client} {e : Raised} (ht : t.HasParts parts)
      (hparts : List.Forall₂ IsClient parts clients)
      (hclients : clients.findSome? (·.unresolved?) = some e) : Breaks t (.raised e)
  | raising (e : Raised) : Breaks (.raising e) (.raised e)
  | fault {t : Thing} {fault : CallFault} (ht : t.Gives (.error fault)) : Breaks t fault
  | result {t u : Thing} {fault : CallFault} (ht : t.Gives (.ok u)) (h : Breaks u fault) : Breaks t fault

end Thing

/-- A reference refers to a thing: it imports a module, and the path leads from there to the thing. -/
def RefersTo (modules : Modules) (reference : String) (t : Thing) : Prop :=
  ∃ library path, Imports modules reference library path ∧ library.Leads (Text.splitAt '.' path) t

/-- The services that a reference gives: none without text, else those that are offered by what it refers
to. -/
inductive GivesServices (modules : Modules) : String → List Service → Prop
  | nothing : GivesServices modules "" []
  | offered {reference : String} {t : Thing} {services : List Service}
      (hrefers : RefersTo modules reference t) (hoffers : t.Offers services) :
      GivesServices modules reference services

/-- Something that is no fault of the catalog is raised on the way: as the module is named relative to no
package, by an import, by an attribute that says something else than that it is not there, or when what is
referred to is made a catalog of. -/
inductive Escapes (modules : Modules) (reference : String) : Prop
  | relative {name path : List Char} (hmentions : Mentions reference name path)
      (hname : name.head? = some '.')
  | importing {name path : List Char} {e : Raised} (hmentions : Mentions reference name path)
      (hname : name.head? ≠ some '.') (hraises : modules.Raises (Text.splitAt '.' name).reverse e)
      (he : e.EscapesImport)
  | asking {library : Thing} {path : List Char} {e : Raised}
      (himports : Imports modules reference library path)
      (hstops : library.Stops (Text.splitAt '.' path) e) (habsent : e.nature ≠ .attribute)
      (he : e.nature ≠ .catalog)
  | use {t : Thing} {fault : CallFault} (hrefers : RefersTo modules reference t)
      (hbreaks : t.Breaks fault) (he : fault.nature ≠ .catalog)

/-- The fault is one of the catalog. -/
def LoadFault.IsReported (fault : LoadFault) : Prop := fault.nature = .catalog

/-- The text of the fault and of what is behind it can be had. -/
def LoadFault.CanBeTold (fault : LoadFault) : Prop :=
  (∃ message, fault.text = .ok message) ∧ ∃ cause, fault.detail? = .ok cause

variable {modules : Modules} {reference full : String} {names : List (List Char)}
  {name path : List Char} {m : Module} {attributes : List (String × Thing)} {c : Catalog}
  {services : List Service} {fault : LoadFault} {e : Raised}

/-! ### Importing -/

theorem LoadFault.ofImport_nature_eq_iff :
    (ofImport reference e).nature = .catalog ↔ ¬ e.EscapesImport := by
  rw [ofImport, Raised.EscapesImport]
  by_cases himporting : e.nature = .importing
  · rw [if_pos himporting]
    cases htext : e.text with
    | ok message => simp [nature, himporting]
    | error t =>
      change t.nature = .catalog ↔ _
      simp [himporting]
  · rw [if_neg himporting]
    change e.nature = .catalog ↔ _
    simp [himporting]

theorem enterModule_of_lookup (hm : modules.lookup full = some m) :
    enterModule modules reference full =
      (m.attributes.mapError (.ofImport reference)).map fun attributes => (m, attributes) := by
  rw [enterModule, hm]

theorem enterModule_cases (modules : Modules) (reference full : String) :
    (∃ m, modules.lookup full = some m) ∨
      enterModule modules reference full = .error (.noModule reference full) := by
  cases hm : modules.lookup full with
  | some m => exact .inl ⟨m, rfl⟩
  | none => exact .inr (by rw [enterModule, hm])

theorem openModule_of_loaded {inner : List Char} {outer : List (List Char)}
    (h : outer = [] ∨ modules.IsLoaded (inner :: outer)) :
    openModule modules reference (inner :: outer) =
      enterModule modules reference (moduleName (inner :: outer)) := by
  rw [openModule, if_pos]
  rcases h with rfl | ⟨m, hm, hloaded⟩
  · rfl
  · simp [hm, hloaded]

theorem openModule_of_not_loaded {inner : List Char} {outer : List (List Char)} (hne : outer ≠ [])
    (h : ¬ modules.IsLoaded (inner :: outer)) :
    openModule modules reference (inner :: outer) = (openModule modules reference outer >>= fun found =>
      if found.1.isPackage then enterModule modules reference (moduleName (inner :: outer))
      else .error (.noPackage reference (moduleName (inner :: outer)) (moduleName outer))) := by
  rw [openModule, if_neg]
  · rfl
  · rw [Bool.or_eq_true, List.isEmpty_iff, Option.any_eq_true, not_or]
    exact ⟨hne, h⟩

/-- What importing a module that is reached comes to. -/
theorem openModule_of_reaches (h : modules.Reaches names m) : openModule modules reference names =
    (m.attributes.mapError (.ofImport reference)).map fun attributes => (m, attributes) := by
  induction h with
  | loaded hm hloaded =>
    rw [openModule_of_loaded (.inr ⟨_, hm, hloaded⟩), enterModule_of_lookup hm]
  | outermost hm => rw [openModule_of_loaded (.inl rfl), enterModule_of_lookup hm]
  | @inside inner outer m package attributes hm _ hattributes hpackage ih =>
    by_cases hloaded : outer = [] ∨ modules.IsLoaded (inner :: outer)
    · rw [openModule_of_loaded hloaded, enterModule_of_lookup hm]
    · rw [not_or] at hloaded
      rw [openModule_of_not_loaded hloaded.1 hloaded.2, ih, hattributes]
      simp [Except.map, hpackage, enterModule_of_lookup hm]

theorem openModule_of_raises (h : modules.Raises names e) :
    openModule modules reference names = .error (.ofImport reference e) := by
  induction h with
  | here hreaches he =>
    rw [openModule_of_reaches hreaches, he]
    rfl
  | @around inner outer e hnew houter ih =>
    have hne : outer ≠ [] := by
      rintro rfl
      cases houter with
      | here hreaches _ => cases hreaches
    rw [openModule_of_not_loaded hne hnew, ih, error_bind]

theorem Modules.Reaches.imported (h : modules.Reaches names m) :
    (∃ m attributes, modules.Reaches names m ∧ m.attributes = .ok attributes) ∨
      ∃ e, modules.Raises names e := by
  cases hattributes : m.attributes with
  | ok attributes => exact .inl ⟨m, attributes, h, hattributes⟩
  | error e => exact .inr ⟨e, .here h hattributes⟩

/-- Importing comes to a module, or raises something, or the fault is reported. -/
theorem openModule_cases (modules : Modules) (reference : String) : ∀ names,
    ((∃ m attributes, modules.Reaches names m ∧ m.attributes = .ok attributes) ∨
      ∃ e, modules.Raises names e) ∨
    ∃ fault : LoadFault, fault.IsReported ∧ openModule modules reference names = .error fault
  | [] => .inr ⟨.noModule _ _, rfl, rfl⟩
  | inner :: outer => by
    have henter := enterModule_cases modules reference (moduleName (inner :: outer))
    by_cases hloaded : outer = [] ∨ modules.IsLoaded (inner :: outer)
    · have hopen : openModule modules reference (inner :: outer) = _ := openModule_of_loaded hloaded
      rcases henter with ⟨m, hm⟩ | hnone
      · rcases hloaded with rfl | ⟨m, hm, hloaded⟩
        · exact .inl (Modules.Reaches.outermost hm).imported
        · exact .inl (Modules.Reaches.loaded hm hloaded).imported
      · exact .inr ⟨.noModule _ _, rfl, hopen.trans hnone⟩
    · rw [not_or] at hloaded
      have hopen : openModule modules reference (inner :: outer) = _ :=
        openModule_of_not_loaded hloaded.1 hloaded.2
      rcases openModule_cases modules reference outer with
        (⟨package, attributes, houter, hattributes⟩ | ⟨e, he⟩) | ⟨fault, hreported, hfault⟩
      · rw [openModule_of_reaches houter, hattributes] at hopen
        by_cases hpackage : package.isPackage = true
        · rcases henter with ⟨m, hm⟩ | hnone
          · exact .inl (Modules.Reaches.inside hm houter hattributes hpackage).imported
          · exact .inr ⟨.noModule _ _, rfl, by simpa [Except.map, hpackage, hnone] using hopen⟩
        · exact .inr ⟨.noPackage _ _ _, rfl, by simpa [Except.map, hpackage] using hopen⟩
      · exact .inl (.inr ⟨e, .around hloaded.2 he⟩)
      · rw [hfault, error_bind] at hopen
        exact .inr ⟨fault, hreported, hopen⟩

theorem importModule_of_relative (hname : name.head? = some '.') :
    importModule modules reference name = .error (.relative (String.ofList name)) := by
  rw [importModule, if_pos hname]

theorem importModule_of_not_relative (hname : name.head? ≠ some '.') :
    importModule modules reference name =
      (openModule modules reference (Text.splitAt '.' name).reverse).map fun found =>
        .library (String.ofList name) found.2 := by
  rw [importModule, if_neg hname]

namespace Thing

variable {t u : Thing} {call : CallFault} {parts : List Thing} {clients : List Client}

/-! ### Paths -/

theorem step_eq_ok_iff : t.step name = .ok u ↔ t.Has name u := by
  rw [step, Has]
  cases hfound : t.attribute? (String.ofList name) with
  | none => simp
  | some found => cases found <;> simp +contextual [eq_comm]

/-- Asking for an attribute raises what the attribute says, or that it is not there. -/
theorem step_eq_error (h : t.step name = .error e) :
    t.attribute? (String.ofList name) = some (.raising e) ∨ e.nature = .attribute := by
  rw [step] at h
  cases hfound : t.attribute? (String.ofList name) with
  | none =>
    rw [hfound] at h
    cases h
    exact .inr rfl
  | some found =>
    rw [hfound] at h
    cases found with
    | raising => exact .inl (congrArg _ (congrArg _ (Except.error.inj h)))
    | _ => cases h

theorem foldlM_step_eq_ok_iff : ∀ {names : List (List Char)} {t : Thing},
    names.foldlM step t = .ok u ↔ t.Leads names u
  | [], t => by
    constructor
    · rintro ⟨⟩
      exact .here _
    · rintro ⟨⟩
      rfl
  | name :: names, t => by
    rw [List.foldlM_cons, andThen_eq_ok_iff]
    constructor
    · rintro ⟨found, hfound, hrest⟩
      exact .attribute (step_eq_ok_iff.1 hfound) (foldlM_step_eq_ok_iff.1 hrest)
    · rintro (_ | ⟨hfound, hrest⟩)
      exact ⟨_, step_eq_ok_iff.2 hfound, foldlM_step_eq_ok_iff.2 hrest⟩

theorem foldlM_step_of_stops (h : t.Stops names e) : names.foldlM step t = .error e := by
  induction h with
  | here h =>
    rw [List.foldlM_cons, step, h]
    rfl
  | later h _ ih => rw [List.foldlM_cons, step_eq_ok_iff.2 h, ok_bind, ih]

theorem foldlM_step_eq_error : ∀ {names : List (List Char)} {t : Thing},
    names.foldlM step t = .error e → t.Stops names e ∨ e.nature = .attribute
  | [], _, h => by cases h
  | name :: names, t, h => by
    rw [List.foldlM_cons, andThen_eq_error_iff] at h
    rcases h with h | ⟨found, hfound, h⟩
    · exact (step_eq_error h).imp_left .here
    · exact (foldlM_step_eq_error h).imp_left (.later (step_eq_ok_iff.1 hfound))

theorem follow_eq_ok_iff : t.follow path = .ok u ↔ t.Leads (Text.splitAt '.' path) u :=
  foldlM_step_eq_ok_iff

/-! ### Things as catalogs -/

theorem clients?_client (c : Client) (own : List (String × Thing)) (parts : List Thing) :
    clients? (.client c own :: parts) = (clients? parts).map (c :: ·) := by
  rw [clients?, List.mapM_cons]
  change (clients? parts).bind (fun rest => some (c :: rest)) = _
  cases clients? parts <;> rfl

theorem clients?_eq_some_iff : ∀ {parts : List Thing} {clients : List Client},
    clients? parts = some clients ↔ List.Forall₂ IsClient parts clients
  | [], clients => by cases clients <;> simp [clients?]
  | .client c own :: parts, clients => by
    rw [clients?_client, Option.map_eq_some_iff]
    simp only [clients?_eq_some_iff]
    cases clients with
    | nil => simp
    | cons first others => simp [IsClient, and_comm, eq_comm]
  | .catalog _ :: _, clients | .function .. :: _, clients | .items .. :: _, clients
  | .object .. :: _, clients | .library .. :: _, clients | .plain _ :: _, clients
  | .raising _ :: _, clients => by
    cases clients <;> simp [clients?, IsClient]

theorem raised?_eq_none (h : List.Forall₂ IsClient parts clients) : raised? parts = none := by
  induction h with
  | nil => rfl
  | cons hclient _ ih =>
    obtain ⟨own, rfl⟩ := hclient
    exact ih

theorem describe_of_resolved (h : ∀ c ∈ clients, c.unresolved? = none) :
    describe clients = .ok (.ofClients clients) := by
  rw [describe, List.findSome?_eq_none_iff.2 h]

theorem describe_of_unresolved (h : clients.findSome? (·.unresolved?) = some e) :
    describe clients = .error (.call (.raised e)) := by
  rw [describe, h]

theorem describe_cases (clients : List Client) : (∀ c ∈ clients, c.unresolved? = none) ∨
    ∃ e, clients.findSome? (·.unresolved?) = some e := by
  cases h : clients.findSome? (·.unresolved?) with
  | none => exact .inl (List.findSome?_eq_none_iff.1 h)
  | some e => exact .inr ⟨e, rfl⟩

theorem toCatalog_of_gives (h : t.Gives (.ok u)) : t.toCatalog = u.toCatalog := by
  cases h <;> rw [toCatalog]

theorem toCatalog_of_gives_error (h : t.Gives (.error call)) : t.toCatalog = .error (.call call) := by
  cases h <;> rw [toCatalog]

theorem toCatalog_of_hasParts (h : t.HasParts parts) : t.toCatalog = describeParts t.typeName parts := by
  cases h <;> rw [toCatalog, typeName]

theorem toCatalog_of_clients (h : t.HasParts parts) (hparts : List.Forall₂ IsClient parts clients) :
    t.toCatalog = describe clients := by
  rw [toCatalog_of_hasParts h, describeParts, raised?_eq_none hparts, clients?_eq_some_iff.2 hparts]

/-- A thing is a catalog that is made of what it offers, or is made a catalog of. -/
theorem Offers.toCatalog (h : t.Offers services) :
    ∃ c, t.toCatalog = .ok c ∧ Catalog.ofServices c.services = .ofServices services := by
  induction h with
  | catalog c => exact ⟨c, by rw [Thing.toCatalog], rfl⟩
  | @client c own hc =>
    refine ⟨.ofClients [c], ?_, (Catalog.isProper_ofServices _).ofServices_eq⟩
    rw [Thing.toCatalog, describe_of_resolved]
    rintro _ (_ | ⟨_, ⟨⟩⟩)
    exact hc
  | @parts t parts clients ht hparts hclients =>
    refine ⟨.ofClients clients, ?_, (Catalog.isProper_ofServices _).ofServices_eq⟩
    rw [toCatalog_of_clients ht hparts, describe_of_resolved hclients]
  | result ht _ ih => rwa [toCatalog_of_gives ht]

theorem Breaks.toCatalog (h : t.Breaks call) : t.toCatalog = .error (.call call) := by
  induction h with
  | client hc =>
    rw [Thing.toCatalog, describe_of_unresolved]
    simpa using hc
  | listing ht hparts => rw [toCatalog_of_hasParts ht, describeParts, hparts]
  | parts ht hparts hclients => rw [toCatalog_of_clients ht hparts, describe_of_unresolved hclients]
  | raising e => rw [Thing.toCatalog]
  | fault ht => exact toCatalog_of_gives_error ht
  | result ht _ ih => rwa [toCatalog_of_gives ht]

/-- A collection offers services, or something is raised, or it makes no catalog. -/
theorem HasParts.cases (ht : t.HasParts parts) : (∃ services, t.Offers services) ∨
    (∃ fault, t.Breaks fault) ∨ ∃ typeName, t.toCatalog = .error (.noCatalog typeName) := by
  cases hraised : raised? parts with
  | some e => exact .inr (.inl ⟨_, .listing ht hraised⟩)
  | none =>
    cases hclients : clients? parts with
    | some clients =>
      have hparts := clients?_eq_some_iff.1 hclients
      rcases describe_cases clients with hall | ⟨e, he⟩
      · exact .inl ⟨_, .parts ht hparts hall⟩
      · exact .inr (.inl ⟨_, .parts ht hparts he⟩)
    | none =>
      refine .inr (.inr ⟨t.typeName, ?_⟩)
      rw [toCatalog_of_hasParts ht, describeParts, hraised, hclients]

theorem Gives.cases (ht : t.Gives (.ok u)) (h : (∃ services, u.Offers services) ∨
    (∃ fault, u.Breaks fault) ∨ ∃ typeName, u.toCatalog = .error (.noCatalog typeName)) :
    (∃ services, t.Offers services) ∨ (∃ fault, t.Breaks fault) ∨
      ∃ typeName, t.toCatalog = .error (.noCatalog typeName) := by
  rcases h with ⟨services, h⟩ | ⟨fault, h⟩ | ⟨typeName, h⟩
  · exact .inl ⟨services, .result ht h⟩
  · exact .inr (.inl ⟨fault, .result ht h⟩)
  · exact .inr (.inr ⟨typeName, (toCatalog_of_gives ht).trans h⟩)

/-- A thing offers services, or something is raised when it is made a catalog of, or it makes none. -/
theorem cases_of_toCatalog (t : Thing) : (∃ services, t.Offers services) ∨
    (∃ fault, t.Breaks fault) ∨ ∃ typeName, t.toCatalog = .error (.noCatalog typeName) := by
  fun_induction Thing.toCatalog t with
  | case1 c => exact .inl ⟨_, .catalog c⟩
  | case2 c own =>
    cases hc : c.unresolved? with
    | none => exact .inl ⟨_, .client hc⟩
    | some e => exact .inr (.inl ⟨_, .client hc⟩)
  | case3 typeName u ih => exact (Gives.function typeName _).cases ih
  | case4 typeName fault => exact .inr (.inl ⟨fault, .fault (.function typeName _)⟩)
  | case5 typeName parts => exact (HasParts.items typeName parts).cases
  | case6 typeName title attributes u parts ih =>
    exact (Gives.object typeName title attributes _ parts).cases ih
  | case7 typeName title attributes fault parts =>
    exact .inr (.inl ⟨fault, .fault (.object typeName title attributes _ parts)⟩)
  | case8 typeName title attributes parts => exact (HasParts.object typeName title attributes parts).cases
  | case12 e => exact .inr (.inl ⟨_, .raising e⟩)
  | _ => exact .inr (.inr ⟨_, rfl⟩)

end Thing

/-! ### References -/

theorem referredCatalog_of_mentions (modules : Modules) (h : Mentions reference name path) :
    ∃ before after : String,
    referredCatalog modules reference = (importModule modules before name >>= fun found =>
      match found.follow path with
      | .ok t => t.toCatalog.mapError .ofThing
      | .error e =>
        if e.nature = .attribute then .error (.noAttribute before after e)
        else .error (.call (.raised e))) := by
  obtain ⟨⟨before, after, hreference, hbefore, rfl, rfl⟩, hname, hpath⟩ := h
  refine ⟨String.ofList before, String.ofList after, ?_⟩
  rw [referredCatalog, hreference, Text.cut_append hbefore]
  have hblank : ((Text.strip before).isEmpty || (Text.strip after).isEmpty) = false := by
    simp [List.isEmpty_eq_false_iff.2 hname, List.isEmpty_eq_false_iff.2 hpath]
  simp only [hblank]
  rfl

theorem referredCatalog_of_not_mentions (h : ∀ name path, ¬ Mentions reference name path) :
    referredCatalog modules reference = .error (.malformed reference) := by
  rw [referredCatalog]
  rcases Text.cut_cases ':' reference.toList with ⟨-, hcut⟩ | ⟨before, after, hreference, hbefore, hcut⟩
  · rw [hcut]
    rfl
  · rw [hcut]
    have hblank : ((Text.strip before).isEmpty || (Text.strip after).isEmpty) = true := by
      by_contra hne
      rw [Bool.not_eq_true, Bool.or_eq_false_iff, List.isEmpty_eq_false_iff,
        List.isEmpty_eq_false_iff] at hne
      exact h _ _ ⟨⟨before, after, hreference, hbefore, rfl, rfl⟩, hne.1, hne.2⟩
    simp only [hblank]
    rfl

/-- What loading comes to after the import of the module that is mentioned. -/
theorem referredCatalog_of_imports {library : Thing} (h : Imports modules reference library path) :
    ∃ before after : String, referredCatalog modules reference =
      match library.follow path with
      | .ok t => t.toCatalog.mapError .ofThing
      | .error e =>
        if e.nature = .attribute then .error (.noAttribute before after e)
        else .error (.call (.raised e)) := by
  obtain ⟨hmentions, hname, hreaches, hattributes⟩ := h
  obtain ⟨before, after, heq⟩ := referredCatalog_of_mentions modules hmentions
  refine ⟨before, after, heq.trans ?_⟩
  rw [importModule_of_not_relative hname, openModule_of_reaches hreaches, hattributes]
  rfl

theorem referredCatalog_of_refersTo {t : Thing} (h : RefersTo modules reference t) :
    referredCatalog modules reference = t.toCatalog.mapError .ofThing := by
  obtain ⟨library, path, himports, hpath⟩ := h
  obtain ⟨before, after, heq⟩ := referredCatalog_of_imports himports
  rw [heq, Thing.follow_eq_ok_iff.2 hpath]

theorem referredCatalog_of_relative (h : Mentions reference name path) (hname : name.head? = some '.') :
    referredCatalog modules reference = .error (.relative (String.ofList name)) := by
  obtain ⟨before, after, heq⟩ := referredCatalog_of_mentions modules h
  rw [heq, importModule_of_relative hname, error_bind]

/-- What goes wrong without being a fault of the catalog is the fault of loading. -/
theorem Escapes.referredCatalog (h : Escapes modules reference) :
    ∃ fault, referredCatalog modules reference = .error fault ∧ ¬ fault.IsReported := by
  cases h with
  | relative hmentions hname => exact ⟨_, referredCatalog_of_relative hmentions hname, nofun⟩
  | @importing name path e hmentions hname hraises he =>
    obtain ⟨before, after, heq⟩ := referredCatalog_of_mentions modules hmentions
    refine ⟨.ofImport before e, ?_, fun h => LoadFault.ofImport_nature_eq_iff.1 h he⟩
    rw [heq, importModule_of_not_relative hname, openModule_of_raises hraises]
    rfl
  | @asking library path e himports hstops habsent he =>
    obtain ⟨before, after, heq⟩ := referredCatalog_of_imports himports
    refine ⟨.call (.raised e), ?_, he⟩
    rw [heq, Thing.follow, Thing.foldlM_step_of_stops hstops]
    exact if_neg habsent
  | @use t fault hrefers hbreaks he =>
    refine ⟨.call fault, ?_, he⟩
    rw [referredCatalog_of_refersTo hrefers, hbreaks.toCatalog]
    rfl

/-- A reference gives services, or something else goes wrong on the way, or the fault is reported. -/
theorem referredCatalog_cases (modules : Modules) (reference : String) :
    (∃ t services, RefersTo modules reference t ∧ t.Offers services) ∨ Escapes modules reference ∨
      ∃ fault : LoadFault, referredCatalog modules reference = .error fault ∧ fault.IsReported := by
  by_cases hmentions : ∃ name path, Mentions reference name path
  swap
  · push Not at hmentions
    exact .inr (.inr ⟨_, referredCatalog_of_not_mentions hmentions, rfl⟩)
  obtain ⟨name, path, hmentions⟩ := hmentions
  by_cases hname : name.head? = some '.'
  · exact .inr (.inl (.relative hmentions hname))
  obtain ⟨before, after, heq⟩ := referredCatalog_of_mentions modules hmentions
  rw [importModule_of_not_relative hname] at heq
  rcases openModule_cases modules before (Text.splitAt '.' name).reverse with
    (⟨m, attributes, hreaches, hattributes⟩ | ⟨e, hraises⟩) | ⟨fault, hreported, hfault⟩
  · have himports : Imports modules reference _ path := .intro hmentions hname hreaches hattributes
    obtain ⟨before, after, heq⟩ := referredCatalog_of_imports himports
    cases hfollow : (Thing.library (String.ofList name) attributes).follow path with
    | ok t =>
      have hrefers : RefersTo modules reference t := ⟨_, path, himports, Thing.follow_eq_ok_iff.1 hfollow⟩
      rcases t.cases_of_toCatalog with ⟨services, hoffers⟩ | ⟨fault, hbreaks⟩ | ⟨typeName, hnone⟩
      · exact .inl ⟨t, services, hrefers, hoffers⟩
      · by_cases hcatalog : fault.nature = .catalog
        · refine .inr (.inr ⟨.call fault, ?_, hcatalog⟩)
          rw [referredCatalog_of_refersTo hrefers, hbreaks.toCatalog]
          rfl
        · exact .inr (.inl (.use hrefers hbreaks hcatalog))
      · refine .inr (.inr ⟨.noCatalog typeName, ?_, rfl⟩)
        rw [referredCatalog_of_refersTo hrefers, hnone]
        rfl
    | error e =>
      simp only [hfollow] at heq
      by_cases habsent : e.nature = .attribute
      · exact .inr (.inr ⟨.noAttribute before after e, heq.trans (if_pos habsent), rfl⟩)
      · rw [if_neg habsent] at heq
        by_cases hcatalog : e.nature = .catalog
        · exact .inr (.inr ⟨.call (.raised e), heq, hcatalog⟩)
        · have hstops := (Thing.foldlM_step_eq_error hfollow).resolve_right habsent
          exact .inr (.inl (.asking himports hstops habsent hcatalog))
  · by_cases he : e.EscapesImport
    · exact .inr (.inl (.importing hmentions hname hraises he))
    · rw [openModule_of_raises hraises] at heq
      exact .inr (.inr ⟨.ofImport before e, heq, LoadFault.ofImport_nature_eq_iff.2 he⟩)
  · rw [hfault] at heq
    exact .inr (.inr ⟨fault, heq, hreported⟩)

/-! ### Loading -/

theorem loadCatalog_of_ne (h : reference ≠ "") :
    loadCatalog modules reference = (referredCatalog modules reference).map builtinCatalog.merge := by
  rw [loadCatalog, if_neg (by simpa using h)]

theorem Mentions.ne_empty (h : Mentions reference name path) : reference ≠ "" := by
  rintro rfl
  obtain ⟨before, after, hreference, -⟩ := h.parts
  simp at hreference

theorem Imports.ne_empty {library : Thing} : Imports modules reference library path → reference ≠ ""
  | .intro hmentions _ _ _ => hmentions.ne_empty

theorem RefersTo.ne_empty {t : Thing} : RefersTo modules reference t → reference ≠ ""
  | ⟨_, _, himports, _⟩ => himports.ne_empty

theorem Escapes.ne_empty : Escapes modules reference → reference ≠ ""
  | .relative hmentions _ | .importing hmentions _ _ _ => hmentions.ne_empty
  | .asking himports _ _ _ => himports.ne_empty
  | .use hrefers _ _ => hrefers.ne_empty

/-- Loading gives a catalog, or a fault of the catalog. -/
def LoadsOrReports (modules : Modules) (reference : String) : Prop :=
  (∃ c, loadCatalog modules reference = .ok c) ∨
    ∃ fault : LoadFault, loadCatalog modules reference = .error fault ∧ fault.IsReported

theorem not_loadsOrReports_iff : ¬ LoadsOrReports modules reference ↔
    ∃ fault : LoadFault, loadCatalog modules reference = .error fault ∧ ¬ fault.IsReported := by
  rw [LoadsOrReports]
  cases loadCatalog modules reference <;> simp

theorem loadCatalog_of_givesServices (h : GivesServices modules reference services) :
    loadCatalog modules reference = .ok (builtinCatalog.merge (.ofServices services)) := by
  cases h with
  | nothing =>
    rw [loadCatalog, if_pos (by rfl)]
    exact congrArg _ (Catalog.merge_empty (Catalog.isProper_ofServices _)).symm
  | offered hrefers hoffers =>
    obtain ⟨c, hc, hservices⟩ := hoffers.toCatalog
    have hmerge : builtinCatalog.merge c = builtinCatalog.merge (.ofServices services) :=
      Catalog.merge_congr (hservices.trans (Catalog.isProper_ofServices services).ofServices_eq.symm)
    rw [loadCatalog_of_ne hrefers.ne_empty, referredCatalog_of_refersTo hrefers, hc, mapError_ok, ← hmerge]
    rfl

/-- Loading gives a catalog that a reference gives services for, or a fault of the catalog, or something else
goes wrong on the way. -/
theorem loadCatalog_cases (modules : Modules) (reference : String) :
    (∃ services, GivesServices modules reference services) ∨ Escapes modules reference ∨
      ∃ fault : LoadFault, loadCatalog modules reference = .error fault ∧ fault.IsReported := by
  by_cases hne : reference = ""
  · exact .inl ⟨[], hne ▸ .nothing⟩
  · rcases referredCatalog_cases modules reference with
      ⟨t, services, hrefers, hoffers⟩ | hescapes | ⟨fault, hfault, hreported⟩
    · exact .inl ⟨services, .offered hrefers hoffers⟩
    · exact .inr (.inl hescapes)
    · exact .inr (.inr ⟨fault, by rw [loadCatalog_of_ne hne, hfault]; rfl, hreported⟩)

theorem not_loadsOrReports_of_escapes (h : Escapes modules reference) :
    ¬ LoadsOrReports modules reference := by
  obtain ⟨fault, hfault, hunreported⟩ := h.referredCatalog
  refine not_loadsOrReports_iff.2 ⟨fault, ?_, hunreported⟩
  rw [loadCatalog_of_ne h.ne_empty, hfault]
  rfl

/-- Whatever the modules and the reference are, loading gives a catalog or a fault of the catalog, unless
something else is raised on the way: the reference names its module relative to a package, or an import raises
something else than that a module cannot be imported, or an attribute something else than that it is not
there, or a function, a list or a description something that is no fault of the catalog. An invocation gives
the message of a fault of the kinds that it reports, if the texts of the fault and of what is behind it can
be had; any other breaks it off. -/
theorem loads_or_reports_iff (modules : Modules) (reference : String) :
    (LoadsOrReports modules reference ↔ ¬ Escapes modules reference) ∧
    ∀ fault : LoadFault,
      ((∃ message cause, Halt.ofLoad fault = .reported message cause) ↔
        fault.nature.isReported = true ∧ fault.CanBeTold) ∧
      (Halt.ofLoad fault = .broken (.catalog fault) ↔
        ¬ (fault.nature.isReported = true ∧ fault.CanBeTold)) := by
  refine ⟨⟨fun h hescapes => not_loadsOrReports_of_escapes hescapes h, fun h => ?_⟩, fun fault => ?_⟩
  · rcases loadCatalog_cases modules reference with ⟨services, hgives⟩ | hescapes | hreported
    · exact .inl ⟨_, loadCatalog_of_givesServices hgives⟩
    · exact absurd hescapes h
    · exact .inr hreported
  · rw [Halt.ofLoad, LoadFault.CanBeTold]
    cases fault.nature.isReported <;> cases fault.text <;> cases fault.detail? <;> simp

/-- A module that is named relative to a package is neither found nor reported. -/
theorem relative_not_reported : loadCatalog [] ".rel:Thing" = .error (.relative ".rel") ∧
    ¬ LoadsOrReports [] ".rel:Thing" := by
  have hmentions : Mentions ".rel:Thing" ".rel".toList "Thing".toList :=
    ⟨⟨".rel".toList, "Thing".toList, by decide, by decide, by decide, by decide⟩, by decide, by decide⟩
  refine ⟨?_, not_loadsOrReports_of_escapes (.relative hmentions (by decide))⟩
  rw [loadCatalog_of_ne hmentions.ne_empty, referredCatalog_of_relative hmentions (by decide)]
  rfl

/-! ### What is loaded -/

theorem isProper_builtinCatalog : builtinCatalog.IsProper := Catalog.isProper_ofServices _

theorem exists_givesServices (h : loadCatalog modules reference = .ok c) :
    ∃ services, GivesServices modules reference services := by
  rcases loadCatalog_cases modules reference with hgives | hescapes | ⟨fault, hfault, -⟩
  · exact hgives
  · exact absurd (.inl ⟨c, h⟩) (not_loadsOrReports_of_escapes hescapes)
  · rw [h] at hfault
    cases hfault

/-- The catalog has the built-in services in front, then those of other clients in the order in which they
first occur; a client has the last service that is given for it, or else the built-in one. -/
structure Catalog.IsBuiltinWith (loaded : Catalog) (services : List Service) : Prop where
  names : loaded.names = ["UtilityClient", "AuthenticationClient"] ++
    (services.map (·.client)).eraseDups.filter (· ∉ ["UtilityClient", "AuthenticationClient"])
  service : ∀ client, loaded.get? client =
    (services.filter (·.client == client)).getLast?.or (builtinCatalog.get? client)

theorem isBuiltinWith_merge (services : List Service) :
    (builtinCatalog.merge (.ofServices services)).IsBuiltinWith services where
  names := by
    rw [Catalog.names_merge isProper_builtinCatalog (Catalog.isProper_ofServices services),
      Catalog.names_ofServices]
    rfl
  service client := by
    rw [Catalog.get?_merge isProper_builtinCatalog (Catalog.isProper_ofServices services),
      Catalog.get?_ofServices, List.getLast?_eq_head?_reverse, ← List.filter_reverse, List.head?_filter]

/-- Merging catalogs is associative, the empty catalog and the catalog itself change nothing, the clients of
the first come first and then the new ones of the second, and a client has its service of the second if it
has one there. A catalog is loaded exactly if the reference gives services, and then it has the built-in
services in front, the others in the order in which their clients first occur, and of each the last one. -/
theorem merge_laws {a b c : Catalog} (ha : a.IsProper) (hb : b.IsProper) (hc : c.IsProper) :
    ((a.merge b).merge c = a.merge (b.merge c) ∧ a.merge .empty = a ∧ Catalog.empty.merge a = a ∧
      a.merge a = a) ∧
    ((a.merge b).names = a.names ++ b.names.filter (· ∉ a.names) ∧ (a.merge b).IsProper ∧
      ∀ client, (a.merge b).get? client = (b.get? client).or (a.get? client)) ∧
    ∀ (modules : Modules) (reference : String),
      ((∃ loaded, loadCatalog modules reference = .ok loaded) ↔
        ∃ services, GivesServices modules reference services) ∧
      ∀ services loaded, GivesServices modules reference services →
        loadCatalog modules reference = .ok loaded → loaded.IsBuiltinWith services := by
  refine ⟨⟨Catalog.merge_assoc ha hb hc, Catalog.merge_empty ha, Catalog.empty_merge ha,
    Catalog.merge_self ha⟩, ⟨Catalog.names_merge ha hb, Catalog.isProper_merge a b,
    Catalog.get?_merge ha hb⟩, fun modules reference => ⟨⟨?_, ?_⟩, ?_⟩⟩
  · rintro ⟨loaded, hload⟩
    exact exists_givesServices hload
  · rintro ⟨services, hgives⟩
    exact ⟨_, loadCatalog_of_givesServices hgives⟩
  · intro services loaded hgives hload
    rw [loadCatalog_of_givesServices hgives] at hload
    cases hload
    exact isBuiltinWith_merge services

/-- An operation that opens a shop. -/
def opening : Method := ⟨"open", true, [], none, fun _ _ w => (.response (.ofStatus 200), w)⟩

/-- A list with two clients of one name, and one with the name of a built-in one between them. -/
def shopClients : List Client :=
  [.plain "ShopClient" [], .plain "UtilityClient" [], .plain "ShopClient" [opening]]

/-- A package with a module that has that list. -/
def shopModules : Modules := [
  ("town", ⟨false, true, .ok []⟩),
  ("town.shop", ⟨false, false, .ok [("ALL", .items "list" (shopClients.map (.client · [])))]⟩)]

theorem shopModules_gives :
    GivesServices shopModules "town.shop:ALL" (shopClients.map (·.service)) := by
  have hmentions : Mentions "town.shop:ALL" "town.shop".toList "ALL".toList :=
    ⟨⟨"town.shop".toList, "ALL".toList, by decide, by decide, by decide, by decide⟩, by decide, by decide⟩
  have htown : shopModules.Reaches ["town".toList] ⟨false, true, .ok []⟩ := .outermost rfl
  refine .offered ⟨_, _, .intro hmentions (by decide) (.inside rfl htown rfl rfl) rfl,
    .attribute ⟨rfl, nofun⟩ (.here _)⟩ ?_
  refine .parts (.items "list" _) (.cons ⟨[], rfl⟩ (.cons ⟨[], rfl⟩ (.cons ⟨[], rfl⟩ .nil))) ?_
  rintro c (_ | ⟨_, _ | ⟨_, _ | ⟨_, ⟨⟩⟩⟩⟩) <;> decide +kernel

/-- Loaded from that module, the shop opens and stands behind the built-in services. -/
theorem merge_laws_shop : ∃ loaded, builtinCatalog.IsProper ∧ (Catalog.ofClients shopClients).IsProper ∧
    loadCatalog shopModules "town.shop:ALL" = .ok loaded ∧
    loaded = builtinCatalog.merge (.ofClients shopClients) ∧
    loaded.merge builtinCatalog = builtinCatalog.merge ((Catalog.ofClients shopClients).merge builtinCatalog) ∧
    loaded.names = ["UtilityClient", "AuthenticationClient", "ShopClient"] ∧
    loaded.get? "ShopClient" = some (Client.plain "ShopClient" [opening]).service := by
  have hshop : (Catalog.ofClients shopClients).IsProper := Catalog.isProper_ofServices _
  obtain ⟨⟨hassoc, -⟩, -, hload⟩ := merge_laws isProper_builtinCatalog hshop isProper_builtinCatalog
  obtain ⟨hloads, hholds⟩ := hload shopModules "town.shop:ALL"
  have hloaded := loadCatalog_of_givesServices shopModules_gives
  have hwith := hholds _ _ shopModules_gives hloaded
  refine ⟨_, isProper_builtinCatalog, hshop, hloaded, rfl, hassoc, hwith.names.trans (by decide), ?_⟩
  rw [hwith.service]
  rfl

end OperatorConsole
