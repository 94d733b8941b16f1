import OperatorConsole.Proofs.Argument.Delivery
import OperatorConsole.Proofs.Argument.Value
import OperatorConsole.Proofs.Session.Agreement
import OperatorConsole.Proofs.Session.SetLine

/-!
Variables that an operator writes. Whatever text is typed as a literal is stored as it is, and handed on
as it is: to other variables and to the parameters of operations. No name but an identifier can be typed
or captured, so in every state that a session comes to, what is listed is what can be referred to.
-/
namespace OperatorConsole

open Command (IsIdentifier)

/-! ### Names -/

/-- The variables bear different names, and every name can be written as a reference. -/
structure Session.WellNamed (s : Session) : Prop where
  identifiers : ∀ x ∈ s.vars, IsIdentifier x.1.toList
  distinct : (s.vars.map (·.1)).Nodup

namespace Variables

theorem map_fst_set (name value : String) : ∀ vs : Variables, (vs.set name value).map (·.1) =
    if name ∈ vs.map (·.1) then vs.map (·.1) else vs.map (·.1) ++ [name]
  | [] => by simp [set]
  | (n, v) :: rest => by
    have ih := map_fst_set name value rest
    by_cases hn : n = name
    · simp [set, hn]
    · have hne : ¬ name = n := fun h => hn h.symm
      simp only [set, beq_iff_eq, hn, if_false, List.map_cons, List.mem_cons, hne, false_or, ih]
      split <;> rfl

end Variables

namespace Session.WellNamed

variable {s : Session} {name : String}

theorem start (downloadDir : DiskPath) : (Session.start downloadDir).WellNamed :=
  ⟨by simp [Session.start], by simp [Session.start]⟩

theorem define (h : s.WellNamed) (hname : IsIdentifier name.toList) (value : String) :
    (s.define name value).WellNamed := by
  have hnames := Variables.map_fst_set name value s.vars
  constructor
  case identifiers =>
    intro x hx
    have hmem : x.1 ∈ (s.vars.set name value).map (·.1) := List.mem_map_of_mem hx
    rw [hnames] at hmem
    have hcases : x.1 ∈ s.vars.map (·.1) ∨ x.1 = name := by
      split at hmem
      · exact .inl hmem
      · simpa using hmem
    rcases hcases with hold | hnew
    · obtain ⟨y, hy, heq⟩ := List.mem_map.1 hold
      exact heq ▸ h.identifiers y hy
    · exact hnew ▸ hname
  case distinct =>
    rw [Session.define, hnames]
    split
    · exact h.distinct
    · next hnot =>
      rw [← List.concat_eq_append]
      exact h.distinct.concat hnot

theorem undefine (h : s.WellNamed) (name : String) : (s.undefine name).WellNamed where
  identifiers x hx := h.identifiers x (List.mem_of_mem_filter hx)
  distinct := h.distinct.sublist (List.filter_sublist.map _)

theorem of_vars {s' : Session} (h : s.WellNamed) (hvars : s'.vars = s.vars) : s'.WellNamed :=
  ⟨hvars ▸ h.identifiers, hvars ▸ h.distinct⟩

theorem clearLast (h : s.WellNamed) : s.clearLast.WellNamed :=
  ((h.define (by decide) "").define (by decide) "").define (by decide) ""

theorem value?_of_mem (h : s.WellNamed) {value : String} (hx : (name, value) ∈ s.vars) :
    s.value? name = some value :=
  Keyed.lookup_of_mem h.distinct hx

end Session.WellNamed

/-! ### States that a session comes to -/

namespace Shell

/-- A session has come to a state: from its start on shells began, lines were carried out, and the world
around it changed. -/
inductive Reachable : ShellState → Prop where
  | start (downloadDir : DiskPath) (w : World) : Reachable ⟨Session.start downloadDir, w⟩
  | begun {state : ShellState} (h : Reachable state) : Reachable (started state)
  | line (sh : Shell) (p : Policy) (line : String) (printed : List String) (reported : List Report)
      {state : ShellState} (h : Reachable state) :
      Reachable ((sh.perform p line).runFrom ⟨state, printed, reported⟩).2.state
  | outside (w : World) {state : ShellState} (h : Reachable state) : Reachable ⟨state.session, w⟩

section

variable {sh : Shell} {p : Policy} {state : ShellState} {s : Session} {line name value : String}

theorem Reachable.handle (h : Reachable state) (sh : Shell) (line : String) :
    Reachable (sh.handle state line).state := by
  have hline := h.line sh .printing line [] []
  rwa [perform_state] at hline

/-- What an interactive run comes to is a state that a session comes to. -/
theorem Reachable.interact (h : Reachable state) (sh : Shell) (lines : List String) :
    Reachable (sh.interact state lines).state := by
  have hfrom : ∀ (lines : List String) (run : Interaction), Reachable run.state →
      Reachable (sh.interactFrom run lines).state := by
    intro lines
    induction lines with
    | nil => exact fun run hrun => hrun
    | cons line rest ih =>
      intro run hrun
      have hstep : Reachable (sh.interactStep run line).state := by
        rw [interactStep_state]
        exact hrun.handle sh (trimmed line)
      simp only [interactFrom]
      split
      · exact ih _ hrun
      · split
        · exact hrun
        · split
          · exact hstep
          · exact ih _ hstep
  exact hfrom lines _ h.begun

/-- What a script comes to is a state that a session comes to. -/
theorem Reachable.runScript (h : Reachable state) (sh : Shell) (text : String) :
    Reachable (sh.runScript state text).state := by
  have hfrom : ∀ (lines : List String) (run : ScriptRun), Reachable run.state →
      Reachable (lines.foldl sh.scriptStep run).state := by
    intro lines
    induction lines with
    | nil => exact fun run hrun => hrun
    | cons line rest ih =>
      intro run hrun
      refine ih _ ?_
      rw [scriptStep]
      split
      · exact hrun
      · exact hrun.line sh .ending line run.printed []
  exact hfrom (scriptLines text) _ h.begun

theorem isIdentifier_of_mem_reserved (h : name ∈ reserved) : IsIdentifier name.toList := by
  revert name
  decide

/-- The name that a line gives a value to is an identifier, since it was read. -/
theorem Sets.isIdentifier (h : Sets state line name value) : IsIdentifier name.toList := by
  obtain ⟨a, ⟨-, service, hread⟩, rfl, hne, -⟩ := h
  have hwritable := (Command.read_eq_ok_iff.1 hread).writable.arguments a (by simp)
  exact hwritable.name.resolve_left hne

theorem noteStatus_wellNamed (h : s.WellNamed) (r : Response) : (noteStatus s r).WellNamed :=
  h.clearLast.define (by decide) _

theorem handle_wellNamed (h : state.session.WellNamed) (sh : Shell) (line : String) :
    (sh.handle state line).state.session.WellNamed := by
  have hwrites := handle_writes sh state line
  generalize (sh.handle state line).state.session = after at hwrites ⊢
  cases hwrites with
  | set hset => exact h.define hset.isIdentifier _
  | undefined => exact h.undefine _
  | @answered r w =>
    obtain htaken | ⟨name, hname, value, htaken⟩ := takeResponse_session sh ⟨state.session, w⟩ r
    · rw [htaken]
      exact noteStatus_wellNamed h r
    · rw [htaken]
      exact (noteStatus_wellNamed h r).define (isIdentifier_of_mem_reserved hname) value
  | nothing _ _ _ hvars => exact h.of_vars hvars

/-- In every state that a session comes to, its variables are named well. -/
theorem Reachable.wellNamed (h : Reachable state) : state.session.WellNamed := by
  induction h with
  | start downloadDir w => exact Session.WellNamed.start downloadDir
  | begun _ ih => exact ih.clearLast
  | line sh p line printed reported _ ih =>
    rw [perform_state]
    exact handle_wellNamed ih sh line
  | outside w _ ih => exact ih

end

end Shell

/-! ### What variables are good for -/

/-- A reference to the variable can be written among the arguments of any command. The line is read as
this command, and the reference stands for the value of the variable. -/
structure Session.Refers (s : Session) (name value : String) : Prop where
  identifier : IsIdentifier name.toList
  read : ∀ (c : Command) (line : String), IsIdentifier c.service.toList →
    IsIdentifier c.verb.toList → (∀ a ∈ c.arguments, a.Writable ∨ a = ⟨.reference, "", name⟩) →
    c.Written line.toList → Command.read line = .ok c
  text : ∀ w, Scope.textOf ⟨s.vars, w⟩ ⟨.reference, "", name⟩ = .ok value

/-- A text parameter of an operation takes a reference to a variable, and the other arguments that are taken
have values. -/
structure Session.Passes (s : Session) (name : String) (w : World) (o : Operation)
    (arguments : List Argument) (i : Nat) (p : Parameter) : Prop where
  slot : ∃ a, (assign o.visible arguments)[i]? = some (p, some a) ∧ a.form = .reference ∧ a.value = name
  kind : p.kind = .text
  others : ∀ (j : Nat) (q : Parameter) (b : Argument), j ≠ i →
    (assign o.visible arguments)[j]? = some (q, some b) →
    ∃ v, Scope.valueOf ⟨s.vars, w⟩ q b = .ok v

/-- A text parameter of an operation that takes a reference to the variable receives the value. So does a
field of the one record that stands for all parameters, where nothing is raised while this is made. -/
structure Session.Delivers (s : Session) (name value : String) : Prop where
  parameter : ∀ w o arguments i p, o.flattened = none → s.Passes name w o arguments i p →
    ∃ values, Scope.bind ⟨s.vars, w⟩ o.formals arguments = .ok values ∧
      values[i]? = some (.text value)
  field : ∀ w o f arguments i p, o.flattened = some f → s.Passes name w o arguments i p →
    (∃ values, Scope.bind ⟨s.vars, w⟩ o.formals arguments = .ok values ∧
      Receives o.formals values i p (some (.text value))) ∨
    ∃ named e, (∀ model fields, ¬ f.IsQuietRecord model fields) ∧
      f.type.makeRecord named = .error e ∧
      Scope.bind ⟨s.vars, w⟩ o.formals arguments = .error (.raised e)

namespace Session

variable {s : Session} {name value : String}

theorem WellNamed.refers (h : s.WellNamed) (hx : (name, value) ∈ s.vars) : s.Refers name value where
  identifier := h.identifiers _ hx
  read c line hservice hverb harguments hwritten := by
    refine Command.read_of_commandAt (Command.commandAt_of_written ⟨hservice, hverb, ?_⟩ hwritten)
    intro a ha
    rcases harguments a ha with hwritable | rfl
    · exact hwritable
    · exact ⟨.inl rfl, fun _ => h.identifiers _ hx⟩
  text _ := Scope.textOf_of_lookup rfl (h.value?_of_mem hx)

/-- Binding succeeds and the value is at its place, unless making the one record of the call raises
something. -/
theorem Passes.bind {w : World} {o : Operation} {arguments : List Argument} {i : Nat} {p : Parameter}
    (h : s.Passes name w o arguments i p) (hvalue : s.value? name = some value) :
    (∃ values, Scope.bind ⟨s.vars, w⟩ o.formals arguments = .ok values ∧
      Receives o.formals values i p (some (.text value))) ∨
    ∃ f named e, o.flattened = some f ∧ (∀ model fields, ¬ f.IsQuietRecord model fields) ∧
      f.type.makeRecord named = .error e ∧
      Scope.bind ⟨s.vars, w⟩ o.formals arguments = .error (.raised e) := by
  obtain ⟨a, hi, hform, rfl⟩ := h.slot
  have htext : Scope.valueOf ⟨s.vars, w⟩ p a = .ok (.text value) :=
    Scope.valueOf_text h.kind (Scope.textOf_of_lookup hform hvalue)
  have hall : ∀ q b, (q, some b) ∈ assign (visible o.formals) arguments →
      ∃ v, Scope.valueOf ⟨s.vars, w⟩ q b = .ok v := by
    intro q b hslot
    obtain ⟨j, hj⟩ := List.getElem?_of_mem hslot
    by_cases hji : j = i
    · subst hji
      obtain ⟨rfl, rfl⟩ : p = q ∧ a = b := by simpa [Operation.visible] using hi.symm.trans hj
      exact ⟨_, htext⟩
    · exact h.others j q b hji hj
  refine (Scope.bind_of_taken hall).imp_left fun ⟨values, hbind⟩ => ⟨values, hbind, ?_⟩
  obtain ⟨given, hslot, hreceives⟩ := Scope.receives_of_bind hbind hi
  cases hslot with
  | present hv =>
    obtain rfl := Except.ok.inj (htext.symm.trans hv)
    exact hreceives

theorem delivers_of_value? (h : s.value? name = some value) : s.Delivers name value where
  parameter w o arguments i p ho hpasses := by
    rcases hpasses.bind h with ⟨values, hbind, hreceives⟩ | ⟨f, named, e, hf, -⟩
    · exact ⟨values, hbind, hreceives.value ho⟩
    · rw [ho] at hf
      cases hf
  field w o f arguments i p ho hpasses := by
    rcases hpasses.bind h with hbound | ⟨f', named, e, hf, hquiet, hraised, hbind⟩
    · exact .inl hbound
    · obtain rfl := Option.some.inj (ho.symm.trans hf)
      exact .inr ⟨named, e, hquiet, hraised, hbind⟩

end Session

/-! ### Lines that set variables -/

namespace Shell

/-- A line was carried out without a report, and nothing but one variable was changed by it; `value` is
the value of this variable after the line, if it has one. -/
structure ChangesOnly (before : ShellState) (reported : List Report) (name : String)
    (value : Option String) (ended : Except Break Unit × Course) : Prop where
  unreported : ended.1 = .ok () ∧ ended.2.reported = reported
  others : ended.2.state.session.vars.unset name = before.session.vars.unset name
  debug : ended.2.state.session.debug = before.session.debug
  downloadDir : ended.2.state.session.downloadDir = before.session.downloadDir
  world : ended.2.state.world = before.world
  value : ended.2.state.session.value? name = value

section

variable {sh : Shell} {p : Policy} {state : ShellState} {printed : List String}
  {reported : List Report} {line value : String} {a : Argument}

theorem course_unreported {o : LineOutcome} (hb : o.broken = none) (h : o.report = none) :
    (o.course p printed reported).1 = .ok () ∧ (o.course p printed reported).2.reported = reported := by
  rw [LineOutcome.course_of_quiet hb h]
  exact ⟨rfl, rfl⟩

/-- A line that gives a variable a text stores this text and changes nothing else. -/
theorem perform_sets (ha : SetsBy line a) (hname : a.name ≠ "")
    (htext : Scope.textOf ⟨state.session.vars, state.world⟩ a = .ok value) :
    ChangesOnly state reported a.name (some value)
      ((sh.perform p line).runFrom ⟨state, printed, reported⟩) := by
  have hhandle : sh.handle state line =
      (sh.defineVariable state.session a.name value).outcome state.world := by
    rw [handle_of_setsBy ha, writeVariable_sets hname htext]
  rw [perform_course, hhandle]
  refine ⟨course_unreported rfl rfl, ?_, ?_, ?_, ?_, ?_⟩ <;> rw [LineOutcome.course_state]
  · exact Variables.unset_set a.name value state.session.vars
  · rfl
  · rfl
  · rfl
  · exact Session.value?_define_self state.session a.name value

/-- A line that undefines a variable removes it and changes nothing else. -/
theorem perform_undefines (ha : SetsBy line a) (hname : a.name = "")
    (hdefined : state.session.vars.has a.value = true) :
    ChangesOnly state reported a.value none
      ((sh.perform p line).runFrom ⟨state, printed, reported⟩) := by
  have hhandle : sh.handle state line =
      (⟨state.session.undefine a.value, [], none⟩ : Change).outcome state.world := by
    rw [handle_of_setsBy ha, writeVariable, if_pos (by simpa using hname), if_pos hdefined]
    rfl
  rw [perform_course, hhandle]
  refine ⟨course_unreported rfl rfl, ?_, ?_, ?_, ?_, ?_⟩ <;> rw [LineOutcome.course_state]
  · exact Variables.unset_unset a.value state.session.vars
  · rfl
  · rfl
  · rfl
  · exact (Session.value?_undefine ..).trans (if_pos rfl)

/-- The listing shows every variable as a reference to it is written. -/
theorem perform_vars : (sh.perform p "vars").runFrom ⟨state, printed, reported⟩ = (.ok (), ⟨state,
    printed ++ "Vars:" :: state.session.vars.map fun x =>
      "  " ++ String.ofList (Command.mark .reference x.1.toList), reported⟩) := by
  have hlines : (state.session.vars.map fun x => s!"  ${x.1}") = state.session.vars.map fun x =>
      "  " ++ String.ofList (Command.mark .reference x.1.toList) := by
    refine List.map_congr_left fun x _ => ?_
    rw [← String.toList_inj]
    simp [Command.mark]
    rfl
  rw [perform_course, handle, classify_vars, ← hlines]
  exact LineOutcome.course_lines ..

end

/-! ### Main result -/

section

variable {state : ShellState}

/-- In every state that a session comes to, all variables are listed under identifiers, and what is
listed of a variable is a reference to it wherever it is written. A text that is typed between quotes is
stored as it is; from there text parameters of operations receive it and other variables take it over,
and the name alone removes it. None of these lines changes anything else. -/
theorem variables_verbatim (h : Reachable state) :
    state.session.WellNamed ∧
    (∀ x ∈ state.session.vars, state.session.Refers x.1 x.2) ∧
    (∀ (sh : Shell) (p : Policy) (printed : List String) (reported : List Report),
      (sh.perform p "vars").runFrom ⟨state, printed, reported⟩ = (.ok (), ⟨state, printed ++
        "Vars:" :: state.session.vars.map fun x =>
          "  " ++ String.ofList (Command.mark .reference x.1.toList), reported⟩)) ∧
    ∀ (sh : Shell) (p : Policy) (printed : List String) (reported : List Report) (form : Form)
      (name value : String), form ≠ .reference → IsIdentifier name.toList → ∀ stored,
      (sh.perform p (assignment form name value)).runFrom ⟨state, printed, reported⟩ = stored →
        ChangesOnly state reported name (some value) stored ∧
        stored.2.state.session.Delivers name value ∧
        (∀ other, IsIdentifier other.toList → ChangesOnly stored.2.state reported other (some value)
          ((sh.perform p (assignment .reference other name)).runFrom stored.2)) ∧
        ChangesOnly stored.2.state reported name none
          ((sh.perform p (undefinition name)).runFrom stored.2) := by
  refine ⟨h.wellNamed, fun x hx => h.wellNamed.refers hx, fun sh p printed reported => perform_vars, ?_⟩
  rintro sh p printed reported form name value hform hname _ rfl
  have hstores : ChangesOnly state reported name (some value)
      ((sh.perform p (assignment form name value)).runFrom ⟨state, printed, reported⟩) :=
    perform_sets (setsBy_assignment hname fun hf => absurd hf hform) (name_ne_empty hname)
      (Scope.textOf_of_ne_reference hform)
  generalize (sh.perform p (assignment form name value)).runFrom ⟨state, printed, reported⟩ = stored
    at hstores
  have hvalue := hstores.value
  have hreported := hstores.unreported.2
  obtain ⟨result, after, printed', reported'⟩ := stored
  obtain rfl : reported' = reported := hreported
  refine ⟨hstores, Session.delivers_of_value? hvalue, fun other hother => ?_, ?_⟩
  · exact perform_sets (setsBy_assignment hother fun _ => hname) (name_ne_empty hother)
      (Scope.textOf_of_lookup rfl hvalue)
  · have hhas : after.session.vars.has name = true := by
      rw [Variables.has, ← Keyed.isSome_lookup, ← Session.value?, hvalue]
      rfl
    exact perform_undefines (setsBy_undefinition hname) rfl hhas

/-- A text with quotes, an equals sign, a line end and what looks like a reference. -/
def signsText : String := "it's = \"$x\"\n"

/-- A shell that has begun, and knows of nothing. -/
def beginning : ShellState := started (.sample .bare ⟨1, ["downloads"]⟩)

theorem variables_verbatim_signs : Reachable beginning ∧ Form.document ≠ .reference ∧
    IsIdentifier "token".toList ∧ IsIdentifier "copy".toList ∧
    ∀ stored, (pictureShell.perform .ending (assignment .document "token" signsText)).runFrom
        ⟨beginning, [], []⟩ = stored →
      ChangesOnly beginning [] "token" (some signsText) stored ∧
      ChangesOnly stored.2.state [] "copy" (some signsText)
        ((pictureShell.perform .ending (assignment .reference "copy" "token")).runFrom stored.2) ∧
      ChangesOnly stored.2.state [] "token" none
        ((pictureShell.perform .ending (undefinition "token")).runFrom stored.2) := by
  have h : Reachable beginning := .begun (.start ⟨1, ["downloads"]⟩ World.bare)
  have hform : Form.document ≠ .reference := by decide
  have htoken : IsIdentifier "token".toList := by decide
  have hcopy : IsIdentifier "copy".toList := by decide
  refine ⟨h, hform, htoken, hcopy, fun stored hstored => ?_⟩
  obtain ⟨hstores, -, hcopies, hremoves⟩ :=
    (variables_verbatim h).2.2.2 _ _ _ _ _ _ _ hform htoken stored hstored
  exact ⟨hstores, hcopies "copy" hcopy, hremoves⟩

end

end Shell

end OperatorConsole
