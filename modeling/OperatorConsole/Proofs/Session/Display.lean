import OperatorConsole.Invocation.Basic
import OperatorConsole.Proofs.Session.Agreement

/-!
Runs on different consoles. How much of a text a console lets a shell show, and whether it shows
anything, is seen on the console and nowhere else: a run of an operator's lines, a script, a sitting
and a whole invocation come to the same, whatever their consoles are.
-/
namespace OperatorConsole

/-! ### Runs on a console -/

/-- A console: how many characters of a text it lets a shell show, a number below zero being no limit,
and whether what a shell prints is shown. Writing to it does not fail: a terminal that cannot be written to
is left out. -/
structure Console where
  maxChars : Int
  isShowing : Bool

/-- The shell on a console. -/
def Console.shell (c : Console) (d : Directory) : Shell := ⟨d, limitOf c.maxChars⟩

/-- What drives a run: the lines that an operator types, or the text of a script. -/
inductive Driver where
  | operator (lines : List String)
  | script (text : String)

/-- What a run comes to: the state, the report that ended it, if one did, and what is shown. -/
structure ConsoleRun where
  state : ShellState
  report : Option Report
  shown : List Shell.Sight

/-- Two runs differ at most in what is shown. -/
structure ConsoleRun.Same (run other : ConsoleRun) : Prop where
  state : run.state = other.state
  report : run.report = other.report

theorem ConsoleRun.Same.exists_shown {run other : ConsoleRun} (h : Same run other) :
    ∃ shown, run = { other with shown := shown } := by
  cases run
  cases other
  obtain ⟨rfl, rfl⟩ := h
  exact ⟨_, rfl⟩

/-- Runs a driver on a console. -/
def Driver.run (d : Directory) (state : ShellState) (c : Console) : Driver → ConsoleRun
  | .operator lines =>
    let run := (c.shell d).interact state lines
    ⟨run.state, run.broken.map (·.toReport), if c.isShowing then run.seen else []⟩
  | .script text =>
    let run := (c.shell d).runScript state text
    ⟨run.state, run.report, if c.isShowing then run.printed.map .line else []⟩

/-- A console that shows everything. -/
def Console.unlimited : Console := ⟨-1, true⟩

theorem Console.shorten_unlimited (d : Directory) (s : String) :
    (unlimited.shell d).shorten s = s := rfl

namespace Shell

/-! ### Interactive runs -/

/-- Two interactive runs differ at most in the lines that are printed. -/
structure SameRun (run other : Interaction) : Prop where
  state : run.state = other.state
  broken : run.broken = other.broken
  /-- As many lines were read. -/
  prompts : run.seen.count .prompt = other.seen.count .prompt

section

variable {d : Directory} {run other : Interaction}

theorem count_prompt_lines (lines : List String) : (lines.map Sight.line).count .prompt = 0 :=
  List.count_eq_zero.2 (by simp)

/-- Whatever is seen next, as long as it has as many prompts. -/
theorem SameRun.append (h : SameRun run other) {seen seen' : List Sight}
    (hseen : seen.count .prompt = seen'.count .prompt) :
    SameRun { run with seen := run.seen ++ seen } { other with seen := other.seen ++ seen' } where
  state := h.state
  broken := h.broken
  prompts := by rw [List.count_append, List.count_append, h.prompts, hseen]

/-- One line keeps two runs the same, whatever the limits are. -/
theorem SameRun.interactLine (h : SameRun run other) (m n : Option Nat) (line : String) :
    SameRun (interactLine ⟨d, m⟩ run line) (interactLine ⟨d, n⟩ other line) := by
  have hsame := handle_same d m n run.state line
  rw [interactLine_eq, interactLine_eq, ← h.state]
  refine ⟨hsame.state, LineOutcome.stopper_congr hsame, ?_⟩
  rw [List.count_append, List.count_append, count_prompt_lines, count_prompt_lines, h.prompts]

theorem SameRun.interactFrom (m n : Option Nat) (lines : List String) : ∀ {run other : Interaction},
    SameRun run other → SameRun (interactFrom ⟨d, m⟩ run lines) (interactFrom ⟨d, n⟩ other lines) := by
  induction lines with
  | nil =>
    intro run other h
    exact h.append rfl
  | cons line lines ih =>
    intro run other h
    have hprompt := h.append (rfl : [Sight.prompt].count .prompt = [Sight.prompt].count .prompt)
    have hline := hprompt.interactLine (d := d) m n (trimmed line)
    simp only [Shell.interactFrom]
    -- a blank line, an exit word, a line that breaks the run, and any other line
    by_cases hblank : (trimmed line == "") = true
    · rw [if_pos hblank, if_pos hblank]
      exact ih hprompt
    · rw [if_neg hblank, if_neg hblank]
      by_cases hexit : exitWords.contains (trimmed line) = true
      · rw [if_pos hexit, if_pos hexit]
        exact hprompt
      · rw [if_neg hexit, if_neg hexit, ← hline.broken]
        split
        · exact hline
        · exact ih hline

theorem interact_same (d : Directory) (m n : Option Nat) (state : ShellState)
    (lines : List String) :
    SameRun (interact ⟨d, m⟩ state lines) (interact ⟨d, n⟩ state lines) :=
  SameRun.interactFrom m n lines ⟨rfl, rfl, rfl⟩

end

/-! ### Scripts -/

/-- Two scripts differ at most in the lines that are printed. -/
structure SameScript (run other : ScriptRun) : Prop where
  state : run.state = other.state
  report : run.report = other.report

theorem SameScript.scriptStep {d : Directory} {run other : ScriptRun} (h : SameScript run other)
    (m n : Option Nat) (line : String) :
    SameScript (scriptStep ⟨d, m⟩ run line) (scriptStep ⟨d, n⟩ other line) := by
  cases hreport : run.report with
  | some r =>
    rw [scriptStep_of_report hreport, scriptStep_of_report (h.report.symm.trans hreport)]
    exact h
  | none =>
    have hsame := handle_same d m n run.state line
    rw [scriptStep_eq _ hreport, scriptStep_eq _ (h.report.symm.trans hreport), ← h.state]
    exact ⟨hsame.state, LineOutcome.complaint_congr hsame⟩

theorem runScript_same (d : Directory) (m n : Option Nat) (state : ShellState) (text : String) :
    SameScript (runScript ⟨d, m⟩ state text) (runScript ⟨d, n⟩ state text) := by
  suffices h : ∀ (lines : List String) (run other : ScriptRun), SameScript run other →
      SameScript (lines.foldl (Shell.scriptStep ⟨d, m⟩) run)
        (lines.foldl (Shell.scriptStep ⟨d, n⟩) other) by
    exact h _ _ _ ⟨rfl, rfl⟩
  intro lines
  induction lines with
  | nil => exact fun _ _ h => h
  | cons line lines ih =>
    intro run other h
    rw [List.foldl_cons, List.foldl_cons]
    exact ih _ _ (h.scriptStep m n line)

end Shell

/-! ### Drivers, sittings and invocations -/

theorem Driver.run_same (driver : Driver) (d : Directory) (state : ShellState) (c e : Console) :
    (driver.run d state c).Same (driver.run d state e) := by
  cases driver with
  | operator lines =>
    have hsame := Shell.interact_same d (limitOf c.maxChars) (limitOf e.maxChars) state lines
    exact ⟨hsame.state, congrArg (Option.map Break.toReport) hsame.broken⟩
  | script text =>
    have hsame := Shell.runScript_same d (limitOf c.maxChars) (limitOf e.maxChars) state text
    exact ⟨hsame.state, hsame.report⟩

/-- The plan that shows more or less. -/
def Plan.showing (p : Plan) (printing : Bool) (limit : Option Nat) : Plan :=
  { p with printing := printing, limit := limit }

/-- Two sittings differ at most in what the terminal shows. -/
structure Sitting.Same (sitting other : Sitting) : Prop where
  state : sitting.state = other.state
  broken : sitting.broken = other.broken

theorem Sitting.Same.exists_screen {sitting other : Sitting} (h : Same sitting other) :
    ∃ screen, sitting = { other with screen := screen } := by
  cases sitting
  cases other
  obtain ⟨rfl, rfl⟩ := h
  exact ⟨_, rfl⟩

/-- A sitting that goes on with another, unless it ends before. -/
def Sitting.goOn (first : Sitting) (ends : Bool) (next : ShellState → Sitting) : Sitting :=
  if first.broken.isSome || ends then first
  else { next first.state with screen := first.screen ++ (next first.state).screen }

theorem Sitting.Same.goOn {first other : Sitting} (h : Same first other) (ends : Bool)
    {next next' : ShellState → Sitting} (hnext : ∀ state, Same (next state) (next' state)) :
    Same (first.goOn ends next) (other.goOn ends next') := by
  unfold Sitting.goOn
  rw [h.broken, h.state]
  split
  · exact h
  · exact ⟨(hnext other.state).state, (hnext other.state).broken⟩

section

variable (d : Directory) (p : Plan) (printing : Bool) (limit : Option Nat) (state : ShellState)
  (input : List String)

/-- The part of a sitting before the operator's. -/
def Sitting.scripted : Sitting :=
  match p.script with
  | some text => script d p state text
  | none => ⟨state, "", none⟩

theorem Sitting.run_eq_goOn : run d p state input =
    (scripted d p state).goOn (!p.interactive) fun state => interactive d p state input := rfl

/-- A script is run without a limit by any plan. -/
theorem Sitting.scripted_same :
    Same (scripted d (p.showing printing limit) state) (scripted d p state) := by
  have hscript : (p.showing printing limit).script = p.script := rfl
  unfold scripted
  rw [hscript]
  cases p.script with
  | none => exact ⟨rfl, rfl⟩
  | some text => exact ⟨rfl, rfl⟩

theorem Sitting.interactive_same :
    Same (interactive d (p.showing printing limit) state input) (interactive d p state input) := by
  have hsame := Shell.interact_same d limit p.limit state input
  exact ⟨hsame.state, hsame.broken⟩

theorem Sitting.run_same :
    Same (run d (p.showing printing limit) state input) (run d p state input) := by
  have hends : (p.showing printing limit).interactive = p.interactive := rfl
  rw [run_eq_goOn, run_eq_goOn, hends]
  exact (scripted_same d p printing limit state).goOn _ fun state =>
    interactive_same d p printing limit state input

end

/-- The options of an invocation that shows more or less. -/
def Options.showing (o : Options) (printing : Bool) (length : Option Int) : Options :=
  { o with printing := printing, printLength := length }

/-- Two endings differ at most in what the terminal shows. -/
structure Ending.Same (ending other : Ending) : Prop where
  exitCode : ending.exitCode = other.exitCode
  disk : ending.disk = other.disk
  breakdown : ending.breakdown = other.breakdown

theorem Ending.Same.exists_screen {ending other : Ending} (h : Same ending other) :
    ∃ screen, ending = { other with screen := screen } := by
  cases ending
  cases other
  obtain ⟨rfl, rfl, rfl⟩ := h
  exact ⟨_, rfl⟩

theorem Ending.same_of_screen (exitCode : Nat) (screen screen' : String) (disk : Disk)
    (breakdown : Option Breakdown) :
    Same ⟨exitCode, screen, disk, breakdown⟩ ⟨exitCode, screen', disk, breakdown⟩ :=
  ⟨rfl, rfl, rfl⟩

theorem Halt.ending_same (h : Halt) (shown shown' : String) (disk : Disk) :
    Ending.Same (h.ending shown disk) (h.ending shown' disk) :=
  Ending.same_of_screen _ _ _ _ _

namespace Machine

variable (m : Machine) (o : Options) (printing : Bool) (length : Option Int)

theorem sit_same (settings : Settings) (text? : Option String) (catalog : Catalog) (shown : String) :
    Ending.Same (m.sit (o.showing printing length) settings text? catalog shown)
      (m.sit o settings text? catalog shown) := by
  have hbase : (o.showing printing length).baseUrl = o.baseUrl := rfl
  have hplan : plan (o.showing printing length) settings text? =
      (plan o settings text?).showing printing (limitOf (length.getD settings.shown)) := rfl
  unfold sit
  rw [hbase, hplan]
  cases Session.begin settings (o.baseUrl.getD "") [] catalog m.disk m.network with
  | error fault => exact ⟨rfl, rfl, rfl⟩
  | ok begun =>
    obtain ⟨d, state⟩ := begun
    obtain ⟨hstate, hbroken⟩ := Sitting.run_same d (plan o settings text?) printing
      (limitOf (length.getD settings.shown)) state (typedLines m.input)
    dsimp only
    rw [hstate, hbroken]
    cases (Sitting.run d (plan o settings text?) state (typedLines m.input)).broken with
    | none => exact Ending.same_of_screen _ _ _ _ _
    | some b => exact Halt.ending_same _ _ _ _

theorem run_same : Ending.Same (m.run (o.showing printing length)) (m.run o) := by
  have hprepare : m.prepare (o.showing printing length) = m.prepare o := rfl
  unfold run
  rw [hprepare]
  cases m.prepare o with
  | error halt => exact ⟨rfl, rfl, rfl⟩
  | ok prepared =>
    obtain ⟨settings, text?⟩ := prepared
    have hverbose : (o.showing printing length).verbose = o.verbose := rfl
    have hloading : loadingLine (o.showing printing length) = loadingLine o := rfl
    have hcatalog : (o.showing printing length).catalog = o.catalog := rfl
    have hloaded : m.loadedLines (o.showing printing length) = m.loadedLines o := rfl
    simp only [hverbose, hloading, hcatalog, hloaded]
    cases if (text?.isNone || o.verbose) = true then loadingLine o else .ok "" with
    | error fault => exact ⟨rfl, rfl, rfl⟩
    | ok shown =>
      dsimp only
      cases loadCatalog m.modules (o.catalog.getD "") with
      | error fault => exact ⟨rfl, rfl, rfl⟩
      | ok catalog => exact sit_same m o printing length settings text? catalog _

end Machine

/-! ### Main result -/

/-- Runs of a driver on two consoles, sittings of two plans that show more or less, and invocations with
two choices of what is shown differ in nothing but what is seen. One of the consoles may be one on which
no text is ever shortened, so what a run keeps is never a shortened text. -/
theorem consoles_change_nothing_else (d : Directory) (state : ShellState) :
    (∀ (driver : Driver) (c e : Console), ∃ shown,
      driver.run d state c = { driver.run d state e with shown := shown }) ∧
    (∀ (p : Plan) (printing : Bool) (limit : Option Nat) (input : List String), ∃ screen,
      Sitting.run d (p.showing printing limit) state input =
        { Sitting.run d p state input with screen := screen }) ∧
    (∀ (m : Machine) (o : Options) (printing : Bool) (length : Option Int), ∃ screen,
      m.run (o.showing printing length) = { m.run o with screen := screen }) ∧
    ∀ s, (Console.unlimited.shell d).shorten s = s := by
  refine ⟨fun driver c e => ?_, fun p printing limit input => ?_, fun m o printing length => ?_,
    Console.shorten_unlimited d⟩
  · exact (driver.run_same d state c e).exists_shown
  · exact (Sitting.run_same d p printing limit state input).exists_screen
  · exact (m.run_same o printing length).exists_screen

example :
    let run := (Driver.operator ["set var x='abc'"]).run ⟨[]⟩ Shell.emptyState ⟨1, true⟩
    run.shown = [.prompt, .line "var $x = a ...", .line "", .prompt, .line ""] ∧
      run.state.session.vars.lookup "x" = some "abc" := by
  decide +kernel

end OperatorConsole
