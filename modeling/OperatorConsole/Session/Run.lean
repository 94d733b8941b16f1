import OperatorConsole.Session.Act
import OperatorConsole.Text.Lines

/-!
Runs of lines. An interactive run prints reports and ends with an exit word or with its input; a
script ends with its first report. Both carry out the same acts and begin with empty reserved
variables.
-/
namespace OperatorConsole.Shell

/-- A line without white space at its ends. -/
def trimmed (line : String) : String := String.ofList (Text.strip line.toList)

/-- The state in which a shell begins. -/
def started (state : ShellState) : ShellState := { state with session := state.session.clearLast }

/-! ### Interactive runs -/

/-- What is seen of an interactive run: a prompt for every line that is read, and what is printed. -/
inductive Sight where
  | prompt
  | line (s : String)
  deriving DecidableEq, Repr

/-- The line that is seen, if it is no prompt. -/
def Sight.line? : Sight → Option String
  | .prompt => none
  | .line s => some s

/-- What an interactive run has come to, and what broke it, if anything did. -/
structure Interaction where
  state : ShellState
  seen : List Sight
  broken : Option Break

/-- The lines that were printed. -/
def Interaction.printed (run : Interaction) : List String := run.seen.filterMap (·.line?)

/-- Carries out one line of an interactive run. A fault of the grammar does not break the run. -/
def interactLine (sh : Shell) (run : Interaction) (line : String) : Interaction :=
  let (result, c) := (sh.perform .printing line).runFrom ⟨run.state, [], []⟩
  let (lines, broken) : List String × Option Break := match result with
    | .ok () => (c.printed, none)
    | .error (.failure f) =>
      if f.nature = .grammar then (c.printed ++ [f.message], none) else (c.printed, some (.failure f))
    | .error b => (c.printed, some b)
  ⟨c.state, run.seen ++ lines.map .line, broken⟩

/-- Takes the lines of an interactive run one by one. -/
def interactFrom (sh : Shell) (run : Interaction) : List String → Interaction
  | [] => { run with seen := run.seen ++ [.prompt, .line ""] }
  | line :: rest =>
    let line := trimmed line
    let run := { run with seen := run.seen ++ [.prompt] }
    if line == "" then interactFrom sh run rest
    else if exitWords.contains line then run
    else
      let run := sh.interactLine run line
      if run.broken.isSome then run else interactFrom sh run rest

/-- An interactive run over lines. -/
def interact (sh : Shell) (state : ShellState) (lines : List String) : Interaction :=
  interactFrom sh ⟨started state, [], none⟩ lines

/-! ### Scripts -/

/-- What a script has come to, and the report that ended it, if one did. -/
structure ScriptRun where
  state : ShellState
  printed : List String
  report : Option Report

/-- Takes one line of a script, unless it has ended. -/
def scriptStep (sh : Shell) (run : ScriptRun) (line : String) : ScriptRun :=
  match run.report with
  | some _ => run
  | none =>
    let (result, c) := (sh.perform .ending line).runFrom ⟨run.state, run.printed, []⟩
    ⟨c.state, c.printed, match result with
      | .ok () => none
      | .error b => some b.toReport⟩

/-- The lines of a script: those that are not blank, without white space at their ends. -/
def scriptLines (text : String) : List String :=
  ((Text.lines text.toList).map fun line => trimmed (String.ofList line)).filter (· != "")

/-- Runs the text of a script. -/
def runScript (sh : Shell) (state : ShellState) (text : String) : ScriptRun :=
  (scriptLines text).foldl sh.scriptStep ⟨started state, [], none⟩

end OperatorConsole.Shell
