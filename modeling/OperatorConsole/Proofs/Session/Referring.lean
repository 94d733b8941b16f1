import OperatorConsole.Proofs.Argument.Value
import OperatorConsole.Proofs.Session.SetLine

/-!
References in lines that set something. A variable is set to the value of the variable that the reference
names, and is left alone if there is none. The options of a session look at no variable: to them a reference
is its name, as if that stood between double quotes.
-/
namespace OperatorConsole.Shell

open Command (IsIdentifier)

variable {sh : Shell} {p : Policy} {state : ShellState} {s : Session}
  {line verb x name value : String} {a b : Argument}

/-! ### Lines that set options -/

/-- The verbs of the options that a session has. -/
def optionVerbs : List String := ["debug", "downloaddir"]

/-- The line sets what a verb names: its first word is `set` and it is a command with this verb and one
argument. -/
def SetsOption (line verb : String) (a : Argument) : Prop :=
  firstWord? line = some "set" ∧ ∃ service, Command.read line = .ok ⟨service, verb, [a]⟩

theorem setsOption_setLine (hverb : IsIdentifier verb.toList) (ha : a.Writable) :
    SetsOption (setLine verb a) verb a :=
  ⟨firstWord?_setLine verb a, "set", read_setLine hverb ha⟩

theorem handle_of_setsOption (h : SetsOption line verb a) :
    sh.handle state line = (sh.change state.session true ⟨"set", verb, [a]⟩).outcome state.world := by
  obtain ⟨hfirst, service, hread⟩ := h
  have hline : classify line = .change true ⟨service, verb, [a]⟩ :=
    classify_eq_change_iff.2 ⟨hfirst, hread⟩
  rw [handle, hline]
  rfl

/-- How the value of an option is written does not matter. -/
theorem change_option (hverb : verb ∈ optionVerbs) (hname : a.name = b.name)
    (hvalue : a.value = b.value) :
    sh.change s true ⟨"set", verb, [a]⟩ = sh.change s true ⟨"set", verb, [b]⟩ := by
  rcases List.mem_pair.1 hverb with rfl | rfl
  · simp only [change, changeDebug, hname, hvalue]
  · simp only [change, changeDownloadDir, hname, hvalue]

theorem handle_option {literal : String} (hverb : verb ∈ optionVerbs) (h : SetsOption line verb a)
    (hliteral : SetsOption literal verb b) (hname : a.name = b.name) (hvalue : a.value = b.value) :
    sh.handle state line = sh.handle state literal := by
  rw [handle_of_setsOption h, handle_of_setsOption hliteral, change_option hverb hname hvalue]

/-! ### Lines that set variables -/

/-- A reference to a variable that is defined does what the value of the variable does as a literal. -/
theorem handle_reference {literal : String} (h : SetsBy line ⟨.reference, name, x⟩) (hname : name ≠ "")
    (hvalue : state.session.value? x = some value)
    (hliteral : SetsBy literal ⟨.plain, name, value⟩) :
    sh.handle state line = sh.handle state literal := by
  have htext : Scope.textOf ⟨state.session.vars, state.world⟩ ⟨.reference, name, x⟩ = .ok value :=
    Scope.textOf_of_lookup rfl hvalue
  rw [handle_of_setsBy h, handle_of_setsBy hliteral, writeVariable_sets hname htext,
    writeVariable_sets (w := state.world) hname (Scope.textOf_of_ne_reference (by simp))]

theorem writeVariable_undefined (hname : name ≠ "") (hvalue : s.value? x = none) :
    sh.writeVariable s ⟨.reference, name, x⟩ = ⟨s, [], some (undefinedVariable x)⟩ := by
  have hlookup : s.vars.lookup x = none := hvalue
  simp [writeVariable, hname, hlookup]

/-- A change that only prints and reports leaves the state as it was. -/
theorem course_reporting (lines : List String) (message : String) (p : Policy) (state : ShellState)
    (printed : List String) (reported : List Report) :
    let result := (Change.outcome ⟨state.session, lines, some message⟩ state.world).course p printed
      reported
    p.Reported printed reported result ⟨message, .none⟩ ∧ result.2.state = state :=
  ⟨reported_of_report rfl rfl, LineOutcome.course_state _ p printed reported⟩

/-! ### Main result -/

/-- What three lines do that set the variable `name` and the two options to a reference `$x`: `run` carries
a line out in a state, in which so much was printed and reported. -/
structure SetByReference (p : Policy) (state : ShellState) (printed : List String)
    (reported : List Report) (run : String → Except Break Unit × Course)
    (x name variableLine directoryLine detailLine : String) : Prop where
  assigned : ∀ value literal, state.session.value? x = some value →
    SetsBy literal ⟨.plain, name, value⟩ → run variableLine = run literal
  undefined : state.session.value? x = none →
    p.Reported printed reported (run variableLine) ⟨undefinedVariable x, .none⟩ ∧
      (run variableLine).2.state = state
  directory : ∀ literal, SetsOption literal "downloaddir" ⟨.plain, "", x⟩ →
    run directoryLine = run literal
  directorySet : (run directoryLine).2.state =
    ⟨{ state.session with downloadDir := DiskPath.ofString x }, state.world⟩
  debug : ∀ literal, SetsOption literal "debug" ⟨.plain, "", x⟩ → run detailLine = run literal
  debugSet : x = "on" ∨ x = "off" →
    (run detailLine).2.state = ⟨{ state.session with debug := x == "on" }, state.world⟩
  debugRefused : ¬ (x = "on" ∨ x = "off") →
    p.Reported printed reported (run detailLine) ⟨unknownChange, .none⟩ ∧ (run detailLine).2.state = state

/-- A variable that is set to a reference takes the value of the variable that is named, as from a literal,
and an undefined one is reported and leaves everything alone. The download directory and the detail of
responses are set to the name behind the dollar sign, whether a variable of that name is defined or not. -/
theorem set_by_reference (sh : Shell) (p : Policy) (state : ShellState) (printed : List String)
    (reported : List Report) {x name variableLine directoryLine detailLine : String} (hname : name ≠ "")
    (hvariable : SetsBy variableLine ⟨.reference, name, x⟩)
    (hdirectory : SetsOption directoryLine "downloaddir" ⟨.reference, "", x⟩)
    (hdebug : SetsOption detailLine "debug" ⟨.reference, "", x⟩) :
    SetByReference p state printed reported
      (fun line => (sh.perform p line).runFrom ⟨state, printed, reported⟩) x name variableLine
      directoryLine detailLine := by
  constructor <;> simp only [perform_course]
  case assigned =>
    intro value literal hvalue hliteral
    rw [handle_reference hvariable hname hvalue hliteral]
  case undefined =>
    intro hvalue
    rw [handle_of_setsBy hvariable, writeVariable_undefined hname hvalue]
    exact course_reporting ..
  case directory =>
    intro literal hliteral
    rw [handle_option (by decide) hdirectory hliteral rfl rfl]
  case directorySet =>
    rw [handle_of_setsOption hdirectory]
    exact LineOutcome.course_state ..
  case debug =>
    intro literal hliteral
    rw [handle_option (by decide) hdebug hliteral rfl rfl]
  case debugSet =>
    intro hx
    rw [LineOutcome.course_state, handle_of_setsOption hdebug]
    rcases hx with rfl | rfl <;> rfl
  case debugRefused =>
    intro hx
    have hchange : sh.change state.session true ⟨"set", "debug", [⟨.reference, "", x⟩]⟩ =
        ⟨state.session, [debugLine state.session], some unknownChange⟩ := by
      simpa [change, changeDebug] using hx
    rw [handle_of_setsOption hdebug, hchange]
    exact course_reporting ..

/-- A session with a variable that holds the path of a directory. -/
def otherState : ShellState := ⟨⟨[("x", "/other")], false, ⟨1, ["downloads"]⟩⟩, .bare⟩

theorem setsOption_reference (verb : String) (hverb : IsIdentifier verb.toList) :
    SetsOption (setLine verb ⟨.reference, "", "x"⟩) verb ⟨.reference, "", "x"⟩ :=
  setsOption_setLine hverb ⟨.inl rfl, fun _ => by decide⟩

theorem set_by_reference_other : "copy" ≠ "" ∧
    SetsBy (assignment .reference "copy" "x") ⟨.reference, "copy", "x"⟩ ∧
    SetsOption (setLine "downloaddir" ⟨.reference, "", "x"⟩) "downloaddir" ⟨.reference, "", "x"⟩ ∧
    SetsOption (setLine "debug" ⟨.reference, "", "x"⟩) "debug" ⟨.reference, "", "x"⟩ ∧
    SetByReference .printing otherState [] []
      (fun line => (pictureShell.perform .printing line).runFrom ⟨otherState, [], []⟩) "x" "copy"
      (assignment .reference "copy" "x") (setLine "downloaddir" ⟨.reference, "", "x"⟩)
      (setLine "debug" ⟨.reference, "", "x"⟩) := by
  have hname : "copy" ≠ "" := by decide
  have hvariable : SetsBy (assignment .reference "copy" "x") ⟨.reference, "copy", "x"⟩ :=
    setsBy_assignment (by decide) fun _ => by decide
  have hdirectory := setsOption_reference "downloaddir" (by decide)
  have hdebug := setsOption_reference "debug" (by decide)
  exact ⟨hname, hvariable, hdirectory, hdebug,
    set_by_reference pictureShell .printing otherState [] [] hname hvariable hdirectory hdebug⟩

/-- The variable is defined, and a reference to it sets the download directory to its name, not to the path
that it holds. -/
theorem reference_not_followed : otherState.session.value? "x" = some "/other" ∧
    setLine "downloaddir" ⟨.reference, "", "x"⟩ = "set downloaddir $x" ∧
    setLine "downloaddir" ⟨.plain, "", "/other"⟩ = "set downloaddir \"/other\"" ∧
    ((pictureShell.perform .printing "set downloaddir $x").runFrom
      ⟨otherState, [], []⟩).2.state.session.downloadDir = ⟨0, ["x"]⟩ ∧
    ((pictureShell.perform .printing "set downloaddir \"/other\"").runFrom
      ⟨otherState, [], []⟩).2.state.session.downloadDir = ⟨1, ["other"]⟩ := by
  have hreference : setLine "downloaddir" ⟨.reference, "", "x"⟩ = "set downloaddir $x" := by decide
  have hliteral : setLine "downloaddir" ⟨.plain, "", "/other"⟩ = "set downloaddir \"/other\"" := by
    decide
  have hnamed : DiskPath.ofString "x" = ⟨0, ["x"]⟩ := by decide +kernel
  have hheld : DiskPath.ofString "/other" = ⟨1, ["other"]⟩ := by decide +kernel
  have hset : SetsOption "set downloaddir $x" "downloaddir" ⟨.reference, "", "x"⟩ :=
    hreference ▸ setsOption_reference "downloaddir" (by decide)
  have hset' : SetsOption "set downloaddir \"/other\"" "downloaddir" ⟨.plain, "", "/other"⟩ :=
    hliteral ▸ setsOption_setLine (by decide) ⟨.inl rfl, by simp⟩
  refine ⟨rfl, hreference, hliteral, ?_, ?_⟩
  · rw [perform_state, handle_of_setsOption hset, ← hnamed]
    rfl
  · rw [perform_state, handle_of_setsOption hset', ← hheld]
    rfl

end OperatorConsole.Shell
