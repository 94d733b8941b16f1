import OperatorConsole.Invocation.Basic
import OperatorConsole.Proofs.Session.Display
import OperatorConsole.Proofs.Session.Script
import OperatorConsole.Proofs.Session.Survival
import OperatorConsole.Proofs.Steps

/-!
The course of an invocation. Before an operator takes part it reads its script, loads its catalog,
starts the session and carries out the script, and any of these may fail; one line that is shown on the
way is marked up by what the catalog is called. What comes of the invocation is then a function of what
is typed.
-/
namespace OperatorConsole

/-! ### What happens before an operator takes part -/

/-- What an invocation is to do before an operator takes part. -/
structure Task where
  script : Option String
  catalog : Option String
  baseUrl : Option String

/-- What the options ask for before an operator takes part. -/
def Options.task (o : Options) : Task := ⟨o.script, o.catalog, o.baseUrl⟩

namespace Machine

/-- The settings are valid and name a level of a log. -/
structure Configured (m : Machine) (settings : Settings) : Prop where
  load : Settings.load m.environment m.disk m.userFile = .ok settings
  level : String.ofList (Text.upper settings.logLevel.toList) ∈ logLevels

/-- The script of a task, if it has one. -/
def scriptOf (m : Machine) (t : Task) : Except Halt (Option String) := t.script.mapM m.scriptText

/-- The catalog of a task. -/
def catalogOf (m : Machine) (t : Task) : Except LoadFault Catalog :=
  loadCatalog m.modules (t.catalog.getD "")

/-- The start of the session of a task with a catalog. -/
def starting (m : Machine) (settings : Settings) (t : Task) (catalog : Catalog) :
    Except StartFault (Directory × ShellState) :=
  Session.begin settings (t.baseUrl.getD "") [] catalog m.disk m.network

/-- An invocation fails before an operator takes part: why, and the disk that is left. -/
inductive Fails (m : Machine) (settings : Settings) (t : Task) : Halt → Disk → Prop
  | script {halt} : m.scriptOf t = .error halt → Fails m settings t halt m.disk
  | catalog {script fault} : m.scriptOf t = .ok script → m.catalogOf t = .error fault →
      Fails m settings t (.ofLoad fault) m.disk
  | start {script catalog fault} : m.scriptOf t = .ok script → m.catalogOf t = .ok catalog →
      m.starting settings t catalog = .error fault → Fails m settings t (.ofStart fault) m.disk
  | report {text catalog d state left r} : m.scriptOf t = .ok (some text) →
      m.catalogOf t = .ok catalog → m.starting settings t catalog = .ok (d, state) →
      Shell.CarriesOut ⟨d, none⟩ (Shell.started state) (Shell.scriptLines text) left (some r) →
      Fails m settings t (.ofReport r) left.world.disk

/-- Nothing fails before an operator takes part: the services, and the state that the script leaves,
or the first one, if there is no script. -/
inductive Leaves (m : Machine) (settings : Settings) (t : Task) : Directory → ShellState → Prop
  | start {catalog d state} : m.scriptOf t = .ok none → m.catalogOf t = .ok catalog →
      m.starting settings t catalog = .ok (d, state) → Leaves m settings t d state
  | script {text catalog d state left} : m.scriptOf t = .ok (some text) →
      m.catalogOf t = .ok catalog → m.starting settings t catalog = .ok (d, state) →
      Shell.CarriesOut ⟨d, none⟩ (Shell.started state) (Shell.scriptLines text) left none →
      Leaves m settings t d left

/-- Both as one function: the failure and the disk that is left, or the services and the state. -/
def opening (m : Machine) (settings : Settings) (t : Task) :
    Except (Halt × Disk) (Directory × ShellState) := do
  let script ← (m.scriptOf t).mapError (·, m.disk)
  let catalog ← (m.catalogOf t).mapError (Halt.ofLoad ·, m.disk)
  let (d, state) ← (m.starting settings t catalog).mapError (Halt.ofStart ·, m.disk)
  match script with
  | none => return (d, state)
  | some text =>
    let run := Shell.runScript ⟨d, none⟩ state text
    match run.report with
    | none => return (d, run.state)
    | some r => throw (.ofReport r, run.state.world.disk)

section

variable {m : Machine} {settings : Settings} {t : Task} {halt : Halt} {disk : Disk} {d : Directory}
  {left : ShellState}

theorem Fails.opening (h : m.Fails settings t halt disk) :
    m.opening settings t = .error (halt, disk) := by
  cases h with
  | script hs => simp [Machine.opening, hs]
  | catalog hs hc => simp [Machine.opening, hs, hc]
  | start hs hc hstart => simp [Machine.opening, hs, hc, hstart]
  | report hs hc hstart hlines =>
    obtain ⟨rfl, hreport⟩ := Shell.carriesOut_iff.1 hlines
    simp only [Machine.opening, hs, hc, hstart, mapError_ok, ok_bind, ← hreport]
    rfl

theorem Leaves.opening (h : m.Leaves settings t d left) :
    m.opening settings t = .ok (d, left) := by
  cases h with
  | start hs hc hstart =>
    simp only [Machine.opening, hs, hc, hstart, mapError_ok, ok_bind]
    rfl
  | script hs hc hstart hlines =>
    obtain ⟨rfl, hreport⟩ := Shell.carriesOut_iff.1 hlines
    simp only [Machine.opening, hs, hc, hstart, mapError_ok, ok_bind, ← hreport]
    rfl

theorem Leaves.of_opening (h : m.opening settings t = .ok (d, left)) : m.Leaves settings t d left := by
  simp only [Machine.opening, andThen_eq_ok_iff, mapError_eq_ok_iff] at h
  obtain ⟨script, hs, catalog, hc, ⟨begun, state⟩, hstart, hrun⟩ := h
  cases script with
  | none =>
    cases hrun
    exact .start hs hc hstart
  | some text =>
    dsimp only at hrun
    cases hreport : (Shell.runScript ⟨begun, none⟩ state text).report with
    | none =>
      rw [hreport] at hrun
      cases hrun
      exact .script hs hc hstart (Shell.carriesOut_iff.2 ⟨rfl, hreport.symm⟩)
    | some r => simp [hreport] at hrun

theorem Fails.not_leaves (h : m.Fails settings t halt disk) : ¬ m.Leaves settings t d left :=
  fun hleft => nomatch h.opening.symm.trans hleft.opening

end

/-- The machine on which something is typed. -/
def typing (m : Machine) (input : String) : Machine := { m with input := input }

end Machine

/-! ### What an invocation comes to -/

/-- The line about the catalog is not shown, or it can be. -/
def Options.Printable (o : Options) : Prop :=
  (o.script.isNone || o.verbose) = true → ∃ shown, Machine.loadingLine o = .ok shown

/-- The ending with a disk after what the terminal has shown, and perhaps with what broke the sitting. -/
def Ending.ofSitting (shown : String) (disk : Disk) : Option Break → Ending
  | none => ⟨0, shown, disk, none⟩
  | some b => (Halt.ofBreak b).ending shown disk

/-- The ending with an interactive run after what the terminal has shown. -/
def Ending.ofInteraction (shown : String) (run : Shell.Interaction) : Ending :=
  .ofSitting (shown ++ String.join (run.seen.map (·.shown))) run.state.world.disk run.broken

theorem Ending.exitCode_ofSitting (shown : String) (disk : Disk) (broken : Option Break) :
    (Ending.ofSitting shown disk broken).exitCode ≠ 0 ↔ ∃ b, broken = some b := by
  cases broken with
  | none => exact iff_of_false (fun hne => hne rfl) (by simp)
  | some b => exact iff_of_true Nat.one_ne_zero ⟨b, rfl⟩

theorem Ending.ofSitting_same (shown shown' : String) (disk : Disk) (broken : Option Break) :
    Same (.ofSitting shown disk broken) (.ofSitting shown' disk broken) := by
  cases broken with
  | none => exact same_of_screen _ _ _ _ _
  | some b => exact Halt.ending_same _ _ _ _

namespace Machine

/-- What an invocation comes to, as a function of what is typed. -/
inductive Course (m : Machine) (settings : Settings) (o : Options) : (String → Ending) → Prop
  | fails {halt disk} (shown : String) : m.Fails settings o.task halt disk →
      Course m settings o fun _ => halt.ending shown disk
  | unprintable {fault} : ¬ o.Printable →
      Course m settings o fun _ => (Halt.broken (.markup fault)).ending "" m.disk
  | quits {d left} (shown : String) : m.Leaves settings o.task d left → o.Printable → o.quit = true →
      Course m settings o fun _ => ⟨0, shown, left.world.disk, none⟩
  | handsOver {d left} (shown : String) : m.Leaves settings o.task d left → o.Printable →
      o.quit = false →
      Course m settings o fun input => .ofInteraction shown
        (Shell.interact ⟨d, limitOf (o.printLength.getD settings.shown)⟩ left (typedLines input))

section

variable {m : Machine} {settings : Settings} {o : Options}

theorem prepare_eq (h : m.Configured settings) :
    m.prepare o = (m.scriptOf o.task).map (settings, ·) := by
  have hlevel : logLevels.contains (String.ofList (Text.upper settings.logLevel.toList)) = true := by
    simpa using h.level
  have hknown : (!o.verbose && !logLevels.contains
      (String.ofList (Text.upper settings.logLevel.toList))) = false := by
    rw [hlevel]
    exact Bool.and_false _
  simp only [prepare, h.load, mapError_ok, ok_bind, hknown]
  rfl

/-- The part of a sitting before the operator's fails, or leaves what the operator finds. -/
theorem scripted_cases {script : Option String} {catalog : Catalog} {d : Directory}
    {state : ShellState} (hs : m.scriptOf o.task = .ok script) (hc : m.catalogOf o.task = .ok catalog)
    (hstart : m.starting settings o.task catalog = .ok (d, state)) {first : Sitting}
    (hfirst : Sitting.scripted d (plan o settings script) state = first) :
    (∃ r, first.broken = some (.report r) ∧
      m.Fails settings o.task (.ofReport r) first.state.world.disk) ∨
    first.broken = none ∧ m.Leaves settings o.task d first.state := by
  subst hfirst
  cases script with
  | none => exact .inr ⟨rfl, .start hs hc hstart⟩
  | some text =>
    have hlines : Shell.CarriesOut ⟨d, none⟩ (Shell.started state) (Shell.scriptLines text) _ _ :=
      Shell.carriesOut_iff.2 ⟨rfl, rfl⟩
    cases hreport : (Shell.runScript ⟨d, none⟩ state text).report with
    | none =>
      exact .inr ⟨congrArg (Option.map Break.report) hreport, .script hs hc hstart (hreport ▸ hlines)⟩
    | some r =>
      exact .inl ⟨r, congrArg (Option.map Break.report) hreport,
        .report hs hc hstart (hreport ▸ hlines)⟩

theorem sit_eq {script : Option String} {catalog : Catalog} {d : Directory} {state : ShellState}
    (hstart : m.starting settings o.task catalog = .ok (d, state)) (shown input : String) :
    (m.typing input).sit o settings script catalog shown =
      let sitting := (Sitting.scripted d (plan o settings script) state).goOn o.quit fun state =>
        Sitting.interactive d (plan o settings script) state (typedLines input)
      .ofSitting (shown ++ sitting.screen) sitting.state.world.disk sitting.broken := by
  have hbegin : Session.begin settings (o.baseUrl.getD "") [] catalog (m.typing input).disk
      (m.typing input).network = .ok (d, state) := hstart
  have hquit : (!(plan o settings script).interactive) = o.quit := Bool.not_not _
  have hinput : (m.typing input).input = input := rfl
  rw [sit, hbegin]
  dsimp only
  rw [Sitting.run_eq_goOn, hquit, hinput]
  generalize Sitting.goOn _ o.quit _ = sitting
  cases hbroken : sitting.broken <;> rfl

/-- The sitting of an invocation comes to what its script leaves, or the operator after it. -/
theorem sit_course {script : Option String} {catalog : Catalog} (hs : m.scriptOf o.task = .ok script)
    (hc : m.catalogOf o.task = .ok catalog) (hprint : o.Printable) (shown : String) :
    m.Course settings o fun input => (m.typing input).sit o settings script catalog shown := by
  cases hstart : m.starting settings o.task catalog with
  | error fault =>
    have hsit : ∀ input, (m.typing input).sit o settings script catalog shown =
        (Halt.ofStart fault).ending shown m.disk := by
      intro input
      have hbegin : Session.begin settings (o.baseUrl.getD "") [] catalog (m.typing input).disk
          (m.typing input).network = .error fault := hstart
      rw [sit, hbegin]
      rfl
    rw [funext hsit]
    exact .fails shown (.start hs hc hstart)
  | ok begun =>
    obtain ⟨d, state⟩ := begun
    simp only [sit_eq hstart shown]
    generalize hfirst : Sitting.scripted d (plan o settings script) state = first
    rcases scripted_cases hs hc hstart hfirst with ⟨r, hbroken, hfails⟩ | ⟨hbroken, hleaves⟩
    · simp only [Sitting.goOn, hbroken, Option.isSome_some, Bool.true_or, if_true]
      exact .fails _ hfails
    · cases hquit : o.quit with
      | true =>
        simp only [Sitting.goOn, hbroken, Option.isSome_none, Bool.or_true, if_true]
        exact .quits _ hleaves hprint hquit
      | false =>
        simp only [Sitting.goOn, hbroken, Option.isSome_none, Bool.or_false, Bool.false_eq_true,
          if_false, ← String.append_assoc]
        exact .handsOver (shown ++ first.screen) hleaves hprint hquit

theorem isNone_of_scriptOf {t : Task} {script : Option String} (hs : m.scriptOf t = .ok script) :
    script.isNone = t.script.isNone := by
  rw [scriptOf] at hs
  cases ht : t.script with
  | none =>
    rw [ht] at hs
    obtain rfl : none = script := Except.ok.inj hs
    rfl
  | some name =>
    rw [ht, Option.mapM_some] at hs
    cases hread : m.scriptText name with
    | error halt => simp [hread] at hs
    | ok text =>
      rw [hread] at hs
      obtain rfl : some text = script := Except.ok.inj hs
      rfl

theorem run_course (h : m.Configured settings) (o : Options) :
    m.Course settings o fun input => (m.typing input).run o := by
  have hprepare : ∀ input, (m.typing input).prepare o = (m.scriptOf o.task).map (settings, ·) :=
    fun input => prepare_eq (m := m.typing input) ⟨h.load, h.level⟩
  simp only [run, hprepare]
  cases hs : m.scriptOf o.task with
  | error halt => exact .fails "" (.script hs)
  | ok script =>
    have hprogress : (script.isNone || o.verbose) = (o.script.isNone || o.verbose) := by
      rw [isNone_of_scriptOf hs, Options.task]
    dsimp only [Except.map]
    rw [hprogress]
    cases hline : if (o.script.isNone || o.verbose) = true then loadingLine o else .ok "" with
    | error fault =>
      refine .unprintable fun hprint => ?_
      by_cases hshown : (o.script.isNone || o.verbose) = true
      · obtain ⟨shown, hok⟩ := hprint hshown
        simp [hshown, hok] at hline
      · simp [hshown] at hline
    | ok shown =>
      have hprint : o.Printable := fun hshown => ⟨shown, by simpa [hshown] using hline⟩
      have hload : ∀ input, loadCatalog (m.typing input).modules (o.catalog.getD "") =
          m.catalogOf o.task := fun _ => rfl
      simp only [hload]
      cases hc : m.catalogOf o.task with
      | error fault => exact .fails shown (.catalog hs hc)
      | ok catalog =>
        exact sit_course hs hc hprint
          (if (o.script.isNone || o.verbose) = true then shown ++ m.loadedLines o catalog else shown)

end

end Machine

end OperatorConsole
