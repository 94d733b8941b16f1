import OperatorConsole.Proofs.Session.Failure

/-!
Lines that write variables. Three things happen to the variables of a session: a line gives one of them
a value, a line undefines one, or a response is taken, which clears and refills the reserved ones. Any
other line leaves them as they were. Whether a variable is defined after a line is said by these three.
-/
namespace OperatorConsole

/-! ### Variables -/

namespace Variables

theorem lookup_unset (name other : String) (vs : Variables) :
    (vs.unset name).lookup other = if other = name then none else vs.lookup other :=
  Keyed.lookup_filter_ne name vs

/-- Undefining a variable that is not defined changes nothing. -/
theorem unset_of_not_has {name : String} {vs : Variables} (h : vs.has name = false) :
    vs.unset name = vs := by
  rw [has, List.any_eq_false] at h
  exact List.filter_eq_self.2 fun x hx => by simpa using h x hx

theorem unset_set (name value : String) : ∀ vs : Variables,
    (vs.set name value).unset name = vs.unset name
  | [] => by simp [set, unset]
  | (n, v) :: rest => by
    have ih := unset_set name value rest
    rw [unset, unset] at ih ⊢
    by_cases hn : n = name
    · simp [set, hn]
    · simp [set, hn, ih]

theorem unset_unset (name : String) (vs : Variables) : (vs.unset name).unset name = vs.unset name := by
  simp [unset, List.filter_filter]

end Variables

namespace Session

/-- Undefines a variable. -/
def undefine (s : Session) (name : String) : Session := { s with vars := s.vars.unset name }

theorem value?_undefine (s : Session) (name other : String) : (s.undefine name).value? other =
    if other = name then none else s.value? other :=
  Variables.lookup_unset name other s.vars

end Session

namespace Shell

variable {sh : Shell} {p : Policy} {state : ShellState} {printed : List String} {s : Session}
  {line name value : String} {a b : Argument} {c : Command} {r : Response} {w : World}

/-! ### Lines that set variables -/

theorem of_classify_change {isSet : Bool} (h : classify line = .change isSet c) :
    firstWord? line = some (if isSet then "set" else "get") ∧ Command.read line = .ok c := by
  unfold classify at h
  unfold firstWord?
  cases hwords : (Text.words line.toList).map String.ofList with
  | nil => simp [hwords] at h
  | cons first others =>
    simp only [hwords] at h
    split at h
    · cases h
    split at h
    · cases h
    split at h
    · next hfirst =>
      split at h
      · next c' hread =>
        obtain ⟨rfl, rfl⟩ := Request.change.inj h
        refine ⟨?_, hread⟩
        rcases Bool.or_eq_true_iff.1 hfirst with hget | hset
        · obtain rfl : first = "get" := by simpa using hget
          rfl
        · obtain rfl : first = "set" := by simpa using hset
          rfl
      · cases h
    · cases h

theorem classify_eq_change_iff {isSet : Bool} : classify line = .change isSet c ↔
    firstWord? line = some (if isSet then "set" else "get") ∧ Command.read line = .ok c := by
  refine ⟨of_classify_change, fun ⟨hfirst, hread⟩ => ?_⟩
  obtain ⟨c', hline⟩ | ⟨-, fault, hfails⟩ := classify_of_change isSet hfirst
  · obtain rfl : c' = c := by simpa [hread] using (of_classify_change hline).2.symm
    exact hline
  · simp [hread] at hfails

/-- The line sets or undefines a variable: its first word is `set` and it is a command with the verb
`var` and one argument. -/
def SetsBy (line : String) (a : Argument) : Prop :=
  firstWord? line = some "set" ∧ ∃ service, Command.read line = .ok ⟨service, "var", [a]⟩

/-- The line gives a variable a value: a text, or the value of another variable. -/
def Sets (state : ShellState) (line name value : String) : Prop :=
  ∃ a, SetsBy line a ∧ a.name = name ∧ name ≠ "" ∧
    Scope.textOf ⟨state.session.vars, state.world⟩ a = .ok value

/-- The line undefines a variable: it names it instead of giving it a value. -/
def Undefines (line name : String) : Prop := ∃ a, SetsBy line a ∧ a.name = "" ∧ a.value = name

/-- The line is executed and gives a response. -/
def Answers (sh : Shell) (state : ShellState) (line : String) (r : Response) (w : World) : Prop :=
  classify line = .execute ∧
    sh.directory.execute state.session.vars state.world line = (.ok r, w)

theorem SetsBy.unique (ha : SetsBy line a) (hb : SetsBy line b) : a = b := by
  obtain ⟨-, service, ha⟩ := ha
  obtain ⟨-, service', hb⟩ := hb
  obtain ⟨-, h⟩ : service = service' ∧ a = b := by simpa using ha.symm.trans hb
  exact h

theorem SetsBy.classify (h : SetsBy line a) :
    ∃ service, classify line = .change true ⟨service, "var", [a]⟩ := by
  obtain ⟨hfirst, service, hread⟩ := h
  exact ⟨service, classify_eq_change_iff.2 ⟨hfirst, hread⟩⟩

theorem SetsBy.not_answers (h : SetsBy line a) : ¬ sh.Answers state line r w := by
  rintro ⟨hexecute, -⟩
  obtain ⟨service, hchange⟩ := h.classify
  rw [hchange] at hexecute
  cases hexecute

theorem Undefines.not_sets (h : Undefines line name) {other : String} :
    ¬ Sets state line other value := by
  rintro ⟨b, hb, rfl, hname, -⟩
  obtain ⟨a, ha, hempty, -⟩ := h
  exact hname (ha.unique hb ▸ hempty)

/-! ### What comes of a line -/

theorem handle_of_setsBy (h : SetsBy line a) :
    sh.handle state line = (sh.writeVariable state.session a).outcome state.world := by
  obtain ⟨service, hline⟩ := h.classify
  rw [handle, hline]
  rfl

theorem writeVariable_undefines (h : a.name = "") :
    (sh.writeVariable s a).session = s.undefine a.value := by
  rw [writeVariable, if_pos (by simpa using h)]
  split
  · rfl
  · next hhas =>
    rw [Session.undefine, Variables.unset_of_not_has (by simpa using hhas)]

theorem writeVariable_sets (h : a.name ≠ "") (htext : Scope.textOf ⟨s.vars, w⟩ a = .ok value) :
    sh.writeVariable s a = sh.defineVariable s a.name value := by
  rw [writeVariable, if_neg (by simpa using h)]
  cases hform : a.form with
  | plain | document =>
    obtain rfl : a.value = value := by simpa [Scope.textOf, hform] using htext
    rfl
  | reference =>
    cases hlookup : s.vars.lookup a.value with
    | none => simp [Scope.textOf, hform, hlookup] at htext
    | some found =>
      obtain rfl : found = value := by simpa [Scope.textOf, hform, hlookup] using htext
      rfl

theorem writeVariable_of_undefined {fault : BindingFault} (h : a.name ≠ "")
    (htext : Scope.textOf ⟨s.vars, w⟩ a = .error fault) : (sh.writeVariable s a).session = s := by
  rw [writeVariable, if_neg (by simpa using h)]
  cases hform : a.form with
  | plain | document => simp [Scope.textOf, hform] at htext
  | reference =>
    cases hlookup : s.vars.lookup a.value with
    | none => rfl
    | some found => simp [Scope.textOf, hform, hlookup] at htext

theorem changeDebug_vars (isSet : Bool) (arguments : List Argument) :
    (changeDebug s isSet arguments).session.vars = s.vars := by
  unfold changeDebug
  split
  · rfl
  · split <;> rfl
  · rfl

theorem changeDownloadDir_vars (isSet : Bool) (arguments : List Argument) :
    (changeDownloadDir s isSet arguments).session.vars = s.vars := by
  unfold changeDownloadDir
  split
  · rfl
  · split <;> rfl
  · rfl

/-- A command that does not set a variable leaves all of them as they were. -/
theorem change_vars {isSet : Bool} (h : ¬ ∃ a, isSet = true ∧ c.verb = "var" ∧ c.arguments = [a]) :
    (sh.change s isSet c).session.vars = s.vars := by
  unfold change
  split
  · exact changeDebug_vars isSet _
  · exact changeDownloadDir_vars isSet _
  · next hverb =>
    unfold changeVariable
    split
    · next a harguments =>
      have hget : ¬ isSet = true := fun hset => h ⟨a, hset, hverb, harguments⟩
      rw [if_neg hget, readVariable]
      split
      · rfl
      · split <;> rfl
    · rfl
  · rfl

/-- A line that sets no variable and gives no response leaves all variables as they were. -/
theorem handle_vars (hset : ∀ a, ¬ SetsBy line a) (hanswer : ∀ r w, ¬ sh.Answers state line r w) :
    (sh.handle state line).state.session.vars = state.session.vars := by
  rw [handle]
  cases hline : classify line with
  | nothing | listing | help => rfl
  | change isSet c =>
    refine change_vars ?_
    rintro ⟨a, rfl, hverb, harguments⟩
    obtain ⟨hfirst, hread⟩ := classify_eq_change_iff.1 hline
    obtain ⟨service, verb, arguments⟩ := c
    obtain ⟨rfl, rfl⟩ : verb = "var" ∧ arguments = [a] := ⟨hverb, harguments⟩
    exact hset a ⟨hfirst, service, hread⟩
  | execute =>
    cases hexecute : sh.directory.execute state.session.vars state.world line with
    | mk result w =>
      cases result with
      | error f => simp only [executeLine, hexecute, failureOutcome_state]
      | ok r => exact absurd ⟨hline, hexecute⟩ (hanswer r w)

/-- A response is noted by its status, and then by one more of the reserved variables or none. -/
theorem takeResponse_session (sh : Shell) (state : ShellState) (r : Response) :
    (sh.takeResponse state r).state.session = noteStatus state.session r ∨
      ∃ name ∈ reserved, ∃ value, (sh.takeResponse state r).state.session =
        (noteStatus state.session r).define name value := by
  rcases takeResponse_session_cases sh state r with h | ⟨-, h | ⟨address, h⟩⟩
  · exact .inr ⟨lastResponse, by decide, _, h⟩
  · exact .inl h
  · exact .inr ⟨lastResponseUri, by decide, address, h⟩

/-- What a line leaves of a session, as far as variables are concerned. -/
inductive Writes (sh : Shell) (state : ShellState) (line : String) : Session → Prop where
  | set {name value : String} (h : Sets state line name value) :
      sh.Writes state line (state.session.define name value)
  | undefined {name : String} (h : Undefines line name) :
      sh.Writes state line (state.session.undefine name)
  | answered {r : Response} {w : World} (h : sh.Answers state line r w) :
      sh.Writes state line (sh.takeResponse ⟨state.session, w⟩ r).state.session
  | nothing {s : Session} (hset : ∀ name value, ¬ Sets state line name value)
      (hundefined : ∀ name, ¬ Undefines line name)
      (hanswered : ∀ r w, ¬ sh.Answers state line r w) (hvars : s.vars = state.session.vars) :
      sh.Writes state line s

/-- A line sets a variable, undefines one, gives a response, or leaves all variables alone. -/
theorem handle_writes (sh : Shell) (state : ShellState) (line : String) :
    sh.Writes state line (sh.handle state line).state.session := by
  by_cases hset : ∃ a, SetsBy line a
  · obtain ⟨a, ha⟩ := hset
    have hhandle : (sh.handle state line).state.session =
        (sh.writeVariable state.session a).session := by
      rw [handle_of_setsBy ha]
      rfl
    rw [hhandle]
    by_cases hname : a.name = ""
    · rw [writeVariable_undefines hname]
      exact .undefined ⟨a, ha, hname, rfl⟩
    · cases htext : Scope.textOf ⟨state.session.vars, state.world⟩ a with
      | ok value =>
        rw [writeVariable_sets hname htext]
        exact .set ⟨a, ha, rfl, hname, htext⟩
      | error fault =>
        rw [writeVariable_of_undefined hname htext]
        refine .nothing ?_ ?_ (fun _ _ => ha.not_answers) rfl
        · rintro _ _ ⟨b, hb, -, -, hb'⟩
          rw [← ha.unique hb, htext] at hb'
          cases hb'
        · rintro _ ⟨b, hb, hempty, -⟩
          exact hname (ha.unique hb ▸ hempty)
  · by_cases hanswer : ∃ r w, sh.Answers state line r w
    · obtain ⟨r, w, h⟩ := hanswer
      rw [handle_of_response h.1 h.2]
      exact .answered h
    · have hnone : ∀ r w, ¬ sh.Answers state line r w := fun r w h => hanswer ⟨r, w, h⟩
      refine .nothing ?_ ?_ hnone (handle_vars (fun a ha => hset ⟨a, ha⟩) hnone)
      · exact fun _ _ ⟨a, ha, _⟩ => hset ⟨a, ha⟩
      · exact fun _ ⟨a, ha, _⟩ => hset ⟨a, ha⟩

end Shell

end OperatorConsole
