import OperatorConsole.Proofs.Invocation.Course
import OperatorConsole.Proofs.Settings.Sources

/-!
How an invocation ends. Main result: what fails before an operator takes part, and the line about the
catalog, decide the exit code and whether an operator is asked, who then finds what the script left. No error
that is reported to the operator has a part in it and no other choice of what is shown; only a failure without
a text, which cannot be reported, ends the invocation like one of the script.
-/
namespace OperatorConsole

namespace Machine

/-! ### Exit codes and hand-over -/

/-- A script is there exactly if its path leads to a file that holds text. -/
theorem scriptText_eq_ok_iff {m : Machine} {name text : String} : m.scriptText name = .ok text ↔
    ∃ content, m.disk.read (DiskPath.ofString name) = .ok content ∧
      World.fileText content = .ok text := by
  cases hread : m.disk.read (DiskPath.ofString name) with
  | ok content =>
    have hisFile : m.disk.isFile (DiskPath.ofString name) = .ok true := by
      rw [Disk.isFile, Disk.leadsTo, Disk.find_eq_ok_iff.2 (Disk.read_eq_ok_iff.1 hread)]
    simp [scriptText, hisFile, hread, mapError_eq_ok_iff]
  | error fault =>
    cases hisFile : m.disk.isFile (DiskPath.ofString name) with
    | error fault => simp [scriptText, hisFile]
    | ok leads => cases leads <;> simp [scriptText, hisFile, hread]

theorem exists_scriptText_eq_error_iff {m : Machine} {name : String} :
    (∃ halt, m.scriptText name = .error halt) ↔
      ¬ ∃ content text, m.disk.read (DiskPath.ofString name) = .ok content ∧
        World.fileText content = .ok text := by
  have hok : (∃ content text, m.disk.read (DiskPath.ofString name) = .ok content ∧
      World.fileText content = .ok text) ↔ ∃ text, m.scriptText name = .ok text := by
    simp only [scriptText_eq_ok_iff]
    exact exists_comm
  rw [hok]
  cases m.scriptText name <;> simp

/-- An operator takes part, and what is typed breaks the run: a line of it has a failure without a text. -/
def Breaks (m : Machine) (settings : Settings) (o : Options) : Prop :=
  ∃ d left b, m.Leaves settings o.task d left ∧ o.Printable ∧ o.quit = false ∧
    (Shell.interact ⟨d, limitOf (o.printLength.getD settings.shown)⟩ left
      (typedLines m.input)).broken = some b

/-- What is typed has a part in what an invocation comes to. -/
def ReadsInput (m : Machine) (o : Options) : Prop :=
  ∃ input other, (m.typing input).run o ≠ (m.typing other).run o

end Machine

/-- The options that let more or less of the script and of the progress be shown. -/
def Options.telling (o : Options) (printing verbose : Bool) : Options :=
  { o with printing := printing, verbose := verbose }

/-- An operator who types nothing sees more than one who types an exit word. -/
theorem Ending.ofInteraction_ne (sh : Shell) (left : ShellState) (shown : String) :
    Ending.ofInteraction shown (sh.interact left (typedLines "")) ≠
      Ending.ofInteraction shown (sh.interact left (typedLines "exit\n")) := by
  have hnone : typedLines "" = [] := by decide
  have hexit : typedLines "exit\n" = ["exit"] := by decide
  have hword : Shell.trimmed "exit" ∈ exitWords := by decide
  intro h
  have hscreen := congrArg Ending.screen h
  rw [hnone, hexit, Shell.interact, Shell.interact, Shell.interactFrom_of_exit sh hword] at hscreen
  have hlength := congrArg String.length hscreen
  have hempty : (Shell.Sight.line "").shown = "" := by
    simpa [Ending.ofInteraction, Ending.ofSitting, Shell.interactFrom] using hlength
  exact absurd hempty (by decide)

namespace Machine

section

variable {m : Machine} {settings : Settings} {o : Options}

theorem Leaves.not_stopped {d : Directory} {left : ShellState}
    (h : m.Leaves settings o.task d left) (hprint : o.Printable) :
    ¬ ((∃ halt disk, m.Fails settings o.task halt disk) ∨ ¬ o.Printable) := by
  rintro (⟨halt, disk, hfails⟩ | hnot)
  · exact hfails.not_leaves h
  · exact hnot hprint

/-- An operator who finds what the script left breaks the run exactly if the run over what is typed is
broken. -/
theorem Leaves.breaks_iff {d : Directory} {left : ShellState} (h : m.Leaves settings o.task d left)
    (hprint : o.Printable) : m.Breaks settings o ↔ o.quit = false ∧
      ∃ b, (Shell.interact ⟨d, limitOf (o.printLength.getD settings.shown)⟩ left
        (typedLines m.input)).broken = some b := by
  constructor
  · rintro ⟨d', left', b, hleaves, -, hquit, hbroken⟩
    obtain ⟨rfl, rfl⟩ : d = d' ∧ left = left' := by simpa using h.opening.symm.trans hleaves.opening
    exact ⟨hquit, b, hbroken⟩
  · rintro ⟨hquit, b, hbroken⟩
    exact ⟨d, left, b, h, hprint, hquit, hbroken⟩

theorem exitCode_ne_zero_iff (h : m.Configured settings) : (m.run o).exitCode ≠ 0 ↔
    ((∃ halt disk, m.Fails settings o.task halt disk) ∨ ¬ o.Printable) ∨ m.Breaks settings o := by
  have hcourse := run_course h o
  change ((fun input => (m.typing input).run o) m.input).exitCode ≠ 0 ↔ _
  generalize (fun input => (m.typing input).run o) = run at hcourse ⊢
  cases hcourse with
  | fails shown hfails => exact iff_of_true Nat.one_ne_zero (.inl (.inl ⟨_, _, hfails⟩))
  | unprintable hprint => exact iff_of_true Nat.one_ne_zero (.inl (.inr hprint))
  | quits shown hleaves hprint hquit =>
    rw [or_iff_right (hleaves.not_stopped hprint), hleaves.breaks_iff hprint, hquit]
    exact iff_of_false (fun hne => hne rfl) (fun hbreaks => nomatch hbreaks.1)
  | handsOver shown hleaves hprint hquit =>
    rw [or_iff_right (hleaves.not_stopped hprint), hleaves.breaks_iff hprint,
      and_iff_right hquit]
    exact Ending.exitCode_ofSitting _ _ _

theorem readsInput_iff (h : m.Configured settings) : m.ReadsInput o ↔
    (∀ halt disk, ¬ m.Fails settings o.task halt disk) ∧ o.Printable ∧ o.quit = false := by
  have hcourse := run_course h o
  unfold ReadsInput
  change (∃ input other, (fun input => (m.typing input).run o) input ≠
    (fun input => (m.typing input).run o) other) ↔ _
  generalize (fun input => (m.typing input).run o) = run at hcourse ⊢
  cases hcourse with
  | fails shown hfails =>
    exact iff_of_false (fun ⟨_, _, hne⟩ => hne rfl) fun hall => hall.1 _ _ hfails
  | unprintable hprint =>
    exact iff_of_false (fun ⟨_, _, hne⟩ => hne rfl) fun hall => hprint hall.2.1
  | quits shown hleaves hprint hquit =>
    refine iff_of_false (fun ⟨_, _, hne⟩ => hne rfl) fun hall => ?_
    rw [hquit] at hall
    exact nomatch hall.2.2
  | handsOver shown hleaves hprint hquit =>
    refine iff_of_true ⟨"", "exit\n", Ending.ofInteraction_ne _ _ shown⟩ ?_
    exact ⟨fun halt disk hfails => hfails.not_leaves hleaves, hprint, hquit⟩

/-- An operator begins with what the script left. -/
theorem run_of_leaves (h : m.Configured settings) {d : Directory} {left : ShellState}
    (hleaves : m.Leaves settings o.task d left) (hprint : o.Printable) (hquit : o.quit = false) :
    ∃ shown, ∀ input, (m.typing input).run o = .ofInteraction shown
      (Shell.interact ⟨d, limitOf (o.printLength.getD settings.shown)⟩ left (typedLines input)) := by
  have hcourse := run_course h o
  generalize hrun : (fun input => (m.typing input).run o) = run at hcourse
  cases hcourse with
  | fails shown hfails => exact absurd hleaves hfails.not_leaves
  | unprintable hnot => exact absurd hprint hnot
  | quits shown _ _ hquits => simp [hquit] at hquits
  | handsOver shown hleaves' =>
    obtain ⟨rfl, rfl⟩ : _ ∧ _ := by simpa using hleaves.opening.symm.trans hleaves'.opening
    exact ⟨shown, fun input => congrFun hrun input⟩

/-- The ending of an invocation of which nothing is shown before an operator takes part. -/
def silentEnding (m : Machine) (settings : Settings) (o : Options) (input : String) : Ending :=
  match m.opening settings o.task with
  | .error (halt, disk) => halt.ending "" disk
  | .ok (d, left) =>
    if o.quit then ⟨0, "", left.world.disk, none⟩
    else .ofInteraction "" (Shell.interact ⟨d, limitOf (o.printLength.getD settings.shown)⟩ left
      (typedLines input))

theorem Course.same {run : String → Ending} (h : m.Course settings o run) (hprint : o.Printable)
    (input : String) : Ending.Same (run input) (m.silentEnding settings o input) := by
  unfold silentEnding
  cases h with
  | fails shown hfails =>
    rw [hfails.opening]
    exact Halt.ending_same _ _ _ _
  | unprintable hnot => exact absurd hprint hnot
  | quits shown hleaves _ hquit =>
    rw [hleaves.opening, hquit]
    exact Ending.same_of_screen _ _ _ _ _
  | handsOver shown hleaves _ hquit =>
    rw [hleaves.opening, hquit]
    exact Ending.ofSitting_same _ _ _ _

/-- As long as the line about the catalog can be shown, an invocation comes to the same with any choice
of what is shown. -/
theorem exists_run_telling (h : m.Configured settings) {printing verbose : Bool}
    (hprint : o.Printable) (htelling : (o.telling printing verbose).Printable) :
    ∃ screen, m.run (o.telling printing verbose) = { m.run o with screen := screen } := by
  have hsame := (run_course h o).same hprint m.input
  have htold := (run_course h (o.telling printing verbose)).same htelling m.input
  have hsilent : m.silentEnding settings (o.telling printing verbose) m.input =
      m.silentEnding settings o m.input := rfl
  rw [hsilent] at htold
  refine Ending.Same.exists_screen ⟨?_, ?_, ?_⟩
  · exact htold.exitCode.trans hsame.exitCode.symm
  · exact htold.disk.trans hsame.disk.symm
  · exact htold.breakdown.trans hsame.breakdown.symm

end

/-- How an invocation ends and what an operator finds. With valid settings the exit code is not zero
exactly if the script cannot be read, the catalog cannot be loaded, the session cannot start or a line
of the script is reported, or if the line about the catalog is to be shown and cannot be, or if a line that
the operator types fails and not even a text of the failure can be had; what is reported to the operator has
no part in it. Unless one of the others holds or it is to quit, the invocation reads what is typed, and the
operator begins with what the script left, the reserved variables being empty. As long as the line about the
catalog can be shown, it makes no difference but on the screen what is shown. -/
theorem exit_exact (m : Machine) (settings : Settings) (h : m.Configured settings) (o : Options) :
    ((m.run o).exitCode ≠ 0 ↔
      ((∃ halt disk, m.Fails settings o.task halt disk) ∨ ¬ o.Printable) ∨ m.Breaks settings o) ∧
    (m.ReadsInput o ↔
      (∀ halt disk, ¬ m.Fails settings o.task halt disk) ∧ o.Printable ∧ o.quit = false) ∧
    (∀ d left, m.Leaves settings o.task d left → o.Printable → o.quit = false →
      Shell.BeginsAfter left (Shell.started left) ∧
      ∃ shown, ∀ input, (m.typing input).run o = .ofInteraction shown
        (Shell.interactFrom ⟨d, limitOf (o.printLength.getD settings.shown)⟩
          ⟨Shell.started left, [], none⟩ (typedLines input))) ∧
    (∀ printing verbose, o.Printable → (o.telling printing verbose).Printable →
      ∃ screen, m.run (o.telling printing verbose) = { m.run o with screen := screen }) ∧
    ∀ name, (∃ halt, m.scriptText name = .error halt) ↔
      ¬ ∃ content text, m.disk.read (DiskPath.ofString name) = .ok content ∧
        World.fileText content = .ok text := by
  refine ⟨exitCode_ne_zero_iff h, readsInput_iff h, fun d left hleaves hprint hquit => ?_,
    fun printing verbose hprint htelling => exists_run_telling h hprint htelling,
    fun name => exists_scriptText_eq_error_iff⟩
  exact ⟨Shell.started_beginsAfter left, run_of_leaves h hleaves hprint hquit⟩

/-- A machine with one client of its own. -/
def shopMachine (client : String) : Machine where
  environment := []
  userFile := Settings.twoFilesUser
  disk := Settings.twoFiles
  modules := [("shop", ⟨false, false, .ok [(client, .client (.plain client []) [])]⟩)]
  network := Web.unreachable
  input := ""
  elapsed := "0"

/-- The settings of such a machine. -/
def shopSettings : Settings :=
  ⟨Binary.ofInt binary64 100, "user", 1200, DiskPath.ofString "/home", "WARNING"⟩

/-- An invocation that asks for the client. -/
def shopOptions (client : String) (quit : Bool) : Options :=
  ⟨some ("shop:" ++ client), none, none, quit, false, false, none⟩

theorem shopMachine_configured (client : String) : (shopMachine client).Configured shopSettings :=
  ⟨Settings.load_twoFiles, by decide +kernel⟩

/-- With an ordinary name the client is loaded and an operator is asked. -/
theorem exit_exact_shop : (shopMachine "Shop").Configured shopSettings ∧
    ((shopMachine "Shop").run (shopOptions "Shop" false)).exitCode = 0 ∧
    (shopMachine "Shop").ReadsInput (shopOptions "Shop" false) ∧
    ∃ d left, (shopMachine "Shop").Leaves shopSettings (shopOptions "Shop" false).task d left ∧
      ∃ shown, ∀ input, ((shopMachine "Shop").typing input).run (shopOptions "Shop" false) =
        .ofInteraction shown (Shell.interactFrom ⟨d, limitOf 1200⟩ ⟨Shell.started left, [], none⟩
          (typedLines input)) := by
  have hconfigured := shopMachine_configured "Shop"
  obtain ⟨hcode, hreads, hbegins, -⟩ := exit_exact _ _ hconfigured (shopOptions "Shop" false)
  have hshown : (loadingLine (shopOptions "Shop" false)).isOk = true := by decide +kernel
  have hopened : ((shopMachine "Shop").opening shopSettings
      (shopOptions "Shop" false).task).isOk = true := by decide +kernel
  have hprint : (shopOptions "Shop" false).Printable := by
    intro _
    cases hline : loadingLine (shopOptions "Shop" false) with
    | error fault => simp [hline, Except.isOk, Except.toBool] at hshown
    | ok shown => exact ⟨shown, rfl⟩
  cases hopening : (shopMachine "Shop").opening shopSettings (shopOptions "Shop" false).task with
  | error fault => simp [hopening, Except.isOk, Except.toBool] at hopened
  | ok found =>
    obtain ⟨d, left⟩ := found
    have hleaves := Leaves.of_opening hopening
    refine ⟨hconfigured, ?_, hreads.2 ⟨fun _ _ hfails => hfails.not_leaves hleaves, hprint, rfl⟩, d,
      left, hleaves, (hbegins d left hleaves hprint rfl).2⟩
    have htyped : ¬ (shopMachine "Shop").Breaks shopSettings (shopOptions "Shop" false) := by
      rw [hleaves.breaks_iff hprint]
      rintro ⟨-, b, hbroken⟩
      cases hbroken
    exact not_not.1 (mt hcode.1 (not_or.2 ⟨hleaves.not_stopped hprint, htyped⟩))

/-- With the name of a tag that closes a style the client is loaded and nothing fails, but the line
about it cannot be shown. -/
theorem tagged_not_shown :
    ¬ ∀ (m : Machine) (settings : Settings), m.Configured settings → ∀ o : Options,
      (m.run o).exitCode ≠ 0 → ∃ halt disk, m.Fails settings o.task halt disk := by
  intro h
  have hconfigured := shopMachine_configured "[/b]"
  have hnot : ¬ (shopOptions "[/b]" true).Printable := by
    intro hprint
    obtain ⟨shown, hshown⟩ := hprint rfl
    have hfault : loadingLine (shopOptions "[/b]" true) = .error (.notOpen "/b".toList 22) := by
      decide +kernel
    rw [hfault] at hshown
    cases hshown
  obtain ⟨halt, disk, hfails⟩ :=
    h _ _ hconfigured _ ((exitCode_ne_zero_iff hconfigured).2 (.inl (.inr hnot)))
  have hopened : ((shopMachine "[/b]").opening shopSettings (shopOptions "[/b]" true).task).isOk =
      true := by decide +kernel
  rw [hfails.opening] at hopened
  cases hopened

end Machine

end OperatorConsole
