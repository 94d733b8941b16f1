import OperatorConsole.Builtin.Authentication
import OperatorConsole.Catalog.Thing
import OperatorConsole.Text.Quoted

/-!
References to catalogs, such as `package.module:attribute`. What a reference names may be a catalog,
a client, clients in a list, or a function that returns one of these. The built-in services are part
of every catalog that is loaded.
-/
namespace OperatorConsole

/-- Why no catalog can be loaded. -/
inductive LoadFault where
  | malformed (reference : String)
  | noModule (reference name : String)
  | noPackage (reference name parent : String)
  /-- A module is there and says itself that it cannot be imported. -/
  | importing (reference message : String)
  /-- A thing on the path has not the attribute it is asked for, and says so. -/
  | noAttribute (reference path : String) (cause : Raised)
  | noCatalog (typeName : String)
  /-- What is imported, asked for an attribute, described or called raises something. -/
  | call (fault : CallFault)
  | relative (name : String)
  deriving DecidableEq, Repr

namespace LoadFault

/-- What is behind a catalog that cannot be loaded, if anything is, or what is raised in its place. -/
def detail? : LoadFault → Except Told (Option String)
  | noModule _ name => .ok (some s!"No module named {quoted name}")
  | noPackage _ name parent =>
    .ok (some s!"No module named {quoted name}; {quoted parent} is not a package")
  | importing _ message => .ok (some message)
  | noAttribute _ _ cause => cause.text.map some
  | _ => .ok none

/-- The report on a catalog that cannot be loaded, or what is raised in its place. -/
def text : LoadFault → Except Told String
  | malformed reference =>
    .ok s!"Catalog reference '{reference}' must look like 'package.module:attribute'"
  | noModule reference name => .ok s!"Unable to import '{reference}': No module named {quoted name}"
  | noPackage reference name parent =>
    .ok s!"Unable to import '{reference}': No module named {quoted name}; {quoted parent} is not a package"
  | importing reference message => .ok s!"Unable to import '{reference}': {message}"
  | noAttribute reference path _ => .ok s!"'{reference}' has no attribute '{path}'"
  | noCatalog typeName => .ok s!"Cannot build an operation catalog from {typeName}"
  | call fault => fault.text
  | relative name =>
    .ok s!"the 'package' argument is required to perform a relative import for {quoted name}"

/-- What kind of failure it is. -/
def nature : LoadFault → Nature
  | call fault => fault.nature
  | relative _ => .other
  | _ => .catalog

/-- The name of the type of the failure. -/
def kind : LoadFault → String
  | call fault => fault.kind
  | relative _ => "TypeError"
  | _ => "CatalogError"

/-- A thing that makes no catalog, as a fault of loading. -/
def ofThing : Thing.Fault → LoadFault
  | .call fault => call fault
  | .noCatalog typeName => noCatalog typeName

/-- What a module raises when it is imported, as a fault of loading. -/
def ofImport (reference : String) (e : Raised) : LoadFault :=
  if e.nature = .importing then
    match e.text with
    | .ok message => importing reference message
    | .error t => call (.raised (.told t))
  else call (.raised e)

end LoadFault

/-! ### Modules -/

/-- What is found under the name of a module. An exit that is asked for during the import counts as
something that is raised. -/
structure Module where
  /-- The module was imported before; the packages around it are not looked at. -/
  isLoaded : Bool
  /-- Other modules may be in it. -/
  isPackage : Bool
  /-- Its attributes, or what importing it raises. -/
  attributes : Except Raised (List (String × Thing))

/-- The modules that can be found: their full names and what is found. What importing one does to another
is left out. -/
abbrev Modules := List (String × Module)

/-- The full name of a module whose names, the innermost one first, are these. -/
def moduleName (names : List (List Char)) : String :=
  String.ofList (names.reverse.intersperse ['.']).flatten

/-- The module that is found under a full name, with its attributes. -/
def enterModule (modules : Modules) (reference name : String) :
    Except LoadFault (Module × List (String × Thing)) :=
  match modules.lookup name with
  | some m => (m.attributes.mapError (.ofImport reference)).map fun attributes => (m, attributes)
  | none => .error (.noModule reference name)

/-- The module that names mean, the innermost one first, after the packages around it. -/
def openModule (modules : Modules) (reference : String) :
    List (List Char) → Except LoadFault (Module × List (String × Thing))
  | [] => .error (.noModule reference "")
  | inner :: outer =>
    let name := moduleName (inner :: outer)
    if outer.isEmpty || (modules.lookup name).any (·.isLoaded) then
      enterModule modules reference name
    else do
      let (parent, _) ← openModule modules reference outer
      if parent.isPackage then enterModule modules reference name
      else throw (.noPackage reference name (moduleName outer))

/-- The module of a name. A dotted name begins with the package that it is in. -/
def importModule (modules : Modules) (reference : String) (name : List Char) :
    Except LoadFault Thing :=
  let full := String.ofList name
  if name.head? = some '.' then .error (.relative full)
  else (openModule modules reference (Text.splitAt '.' name).reverse).map fun m => .library full m.2

/-! ### Attributes -/

/-- The thing under an attribute of a thing, or what is raised when it is asked for. -/
def Thing.step (t : Thing) (name : List Char) : Except Raised Thing :=
  match t.attribute? (String.ofList name) with
  | some (.raising e) => .error e
  | some found => .ok found
  | none =>
    .error (.told ⟨.attribute, "AttributeError", s!"{t.title} has no attribute '{String.ofList name}'"⟩)

/-- What a path of attributes leads to. -/
def Thing.follow (t : Thing) (path : List Char) : Except Raised Thing :=
  (Text.splitAt '.' path).foldlM Thing.step t

/-! ### Loading -/

/-- The catalog that a reference names, without the built-in services. -/
def referredCatalog (modules : Modules) (reference : String) : Except LoadFault Catalog := do
  match Text.cut ':' reference.toList with
  | (name, some path) =>
    if (Text.strip name).isEmpty || (Text.strip path).isEmpty then throw (.malformed reference)
    let found ← importModule modules (String.ofList name) (Text.strip name)
    match found.follow (Text.strip path) with
    | .ok thing => thing.toCatalog.mapError .ofThing
    | .error e =>
      if e.nature = .attribute then
        throw (.noAttribute (String.ofList name) (String.ofList path) e)
      else throw (.call (.raised e))
  | (_, none) => throw (.malformed reference)

/-- The built-in services, and over them the catalog that a reference names, if there is one. -/
def loadCatalog (modules : Modules) (reference : String) : Except LoadFault Catalog :=
  if reference == "" then .ok builtinCatalog
  else (referredCatalog modules reference).map builtinCatalog.merge

end OperatorConsole
