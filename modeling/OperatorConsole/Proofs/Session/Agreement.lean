import OperatorConsole.Proofs.Session.Perform
import OperatorConsole.Proofs.Text.Parts
import OperatorConsole.Session.Run

/-!
Agreement of interactive runs and scripts. An interactive run is a fold of its lines, and so is a
script of the same lines until its first report. Main result: over lines that are no exit words, the
script ends in the state of the interactive run, or with the first report of that run and in the state
right after its line. How much of a text a shell shows changes what is printed, but neither the state after
a line nor the report on it.
-/
namespace OperatorConsole

namespace Shell

/-! ### Lines under different limits -/

/-- Two outcomes differ at most in what is printed. -/
structure SameEffect (o p : LineOutcome) : Prop where
  state : o.state = p.state
  report : o.report = p.report
  broken : o.broken = p.broken

/-- Two changes differ at most in what is printed. -/
structure SameChange (c d : Change) : Prop where
  session : c.session = d.session
  report : c.report = d.report

section

variable (d : Directory) (m n : Option Nat)

theorem readVariable_same (s : Session) (a : Argument) :
    SameChange (readVariable ⟨d, m⟩ s a) (readVariable ⟨d, n⟩ s a) := by
  unfold readVariable
  split
  · exact ⟨rfl, rfl⟩
  · split <;> exact ⟨rfl, rfl⟩

theorem writeVariable_same (s : Session) (a : Argument) :
    SameChange (writeVariable ⟨d, m⟩ s a) (writeVariable ⟨d, n⟩ s a) := by
  unfold writeVariable
  split
  · split <;> exact ⟨rfl, rfl⟩
  · split
    · exact ⟨rfl, rfl⟩
    · exact ⟨rfl, rfl⟩
    · split <;> exact ⟨rfl, rfl⟩

theorem changeVariable_same (s : Session) (isSet : Bool) (arguments : List Argument) :
    SameChange (changeVariable ⟨d, m⟩ s isSet arguments)
      (changeVariable ⟨d, n⟩ s isSet arguments) := by
  unfold changeVariable
  split
  · split
    · exact writeVariable_same d m n s _
    · exact readVariable_same d m n s _
  · exact ⟨rfl, rfl⟩

theorem change_same (s : Session) (isSet : Bool) (c : Command) :
    SameChange (change ⟨d, m⟩ s isSet c) (change ⟨d, n⟩ s isSet c) := by
  unfold change
  split
  · exact ⟨rfl, rfl⟩
  · exact ⟨rfl, rfl⟩
  · exact changeVariable_same d m n s isSet _
  · exact ⟨rfl, rfl⟩

theorem takeResponse_same (state : ShellState) (r : Response) :
    SameEffect (takeResponse ⟨d, m⟩ state r) (takeResponse ⟨d, n⟩ state r) := by
  simp only [takeResponse]
  cases savedType? (noteStatus state.session r) r with
  | none => exact ⟨rfl, rfl, rfl⟩
  | some type =>
    dsimp only
    generalize saveContent state.world.disk _ _ r.body = saved
    obtain ⟨disk, fault | address⟩ := saved <;> exact ⟨rfl, rfl, rfl⟩

theorem executeLine_same (state : ShellState) (line : String) :
    SameEffect (executeLine ⟨d, m⟩ state line) (executeLine ⟨d, n⟩ state line) := by
  unfold executeLine
  simp only
  split
  · exact ⟨rfl, rfl, rfl⟩
  · exact takeResponse_same d m n _ _

/-- What a line does to the state and what it reports are the same for every limit of what is
shown. -/
theorem handle_same (state : ShellState) (line : String) :
    SameEffect (handle ⟨d, m⟩ state line) (handle ⟨d, n⟩ state line) := by
  unfold handle
  split
  · exact ⟨rfl, rfl, rfl⟩
  · exact ⟨rfl, rfl, rfl⟩
  · exact ⟨rfl, rfl, rfl⟩
  · next isSet c _ =>
    have hc := change_same d m n state.session isSet c
    exact ⟨by rw [Change.outcome, Change.outcome, hc.session],
      by rw [Change.outcome, Change.outcome, hc.report], rfl⟩
  · exact executeLine_same d m n state line

end

end Shell

/-! ### What runs make of an outcome -/

namespace LineOutcome

/-- The report on a line: the one that is made, or what is raised in place of a text. -/
def complaint (o : LineOutcome) : Option Report :=
  match o.broken with
  | some t => some (Break.ofTold t).toReport
  | none => o.report

/-- What an interactive run prints for a line; it goes on after a fault of the grammar. -/
def shown (o : LineOutcome) : List String :=
  match o.broken with
  | some t => if t.nature = .grammar then o.printed ++ [t.message] else o.printed
  | none => o.allPrinted

/-- What breaks an interactive run. -/
def stopper (o : LineOutcome) : Option Break :=
  match o.broken with
  | some t => if t.nature = .grammar then none else some (.ofTold t)
  | none => none

section

variable {o : LineOutcome} {t : Told} {r : Report}

theorem shown_of_unbroken (hb : o.broken = none) : o.shown = o.allPrinted := by
  rw [shown, hb]

theorem stopper_of_unbroken (hb : o.broken = none) : o.stopper = none := by
  rw [stopper, hb]

theorem shown_of_grammar (hb : o.broken = some t) (ht : t.nature = .grammar) :
    o.shown = o.printed ++ [t.message] := by
  simp [shown, hb, ht]

theorem stopper_of_grammar (hb : o.broken = some t) (ht : t.nature = .grammar) : o.stopper = none := by
  simp [stopper, hb, ht]

theorem shown_of_not_grammar (hb : o.broken = some t) (ht : t.nature ≠ .grammar) :
    o.shown = o.printed := by
  simp [shown, hb, ht]

theorem stopper_of_not_grammar (hb : o.broken = some t) (ht : t.nature ≠ .grammar) :
    o.stopper = some (.ofTold t) := by
  simp [stopper, hb, ht]

/-- The message of the report on a line is printed, unless the line breaks the run. -/
theorem exists_shown (h : o.complaint = some r) (hs : o.stopper = none) :
    ∃ before after, o.shown = before ++ r.message :: after := by
  rw [complaint] at h
  cases hb : o.broken with
  | some t =>
    rw [hb] at h
    obtain rfl := Option.some.inj h
    have ht : t.nature = .grammar := by
      by_contra hne
      rw [stopper_of_not_grammar hb hne] at hs
      cases hs
    exact ⟨o.printed, [], shown_of_grammar hb ht⟩
  | none =>
    rw [hb] at h
    exact ⟨o.printed, o.after, by simp [shown_of_unbroken hb, allPrinted, show o.report = some r from h]⟩

end

theorem complaint_congr {o p : LineOutcome} (h : Shell.SameEffect o p) :
    o.complaint = p.complaint := by
  rw [complaint, complaint, h.broken, h.report]

theorem stopper_congr {o p : LineOutcome} (h : Shell.SameEffect o p) :
    o.stopper = p.stopper := by
  rw [stopper, stopper, h.broken]

end LineOutcome

/-- The report on a line that was carried out as a line of an interactive run. -/
def Act.complaintOf (result : Except Break Unit × Course) : Option Report :=
  match result.1 with
  | .ok () => result.2.reported.head?
  | .error b => some b.toReport

namespace Shell

theorem complaintOf_perform (sh : Shell) (state : ShellState) (line : String) :
    Act.complaintOf ((sh.perform .printing line).runFrom ⟨state, [], []⟩) =
      (sh.handle state line).complaint := by
  rw [perform_course, LineOutcome.complaint]
  cases hb : (sh.handle state line).broken with
  | some t => rw [LineOutcome.course_of_broken hb, Act.complaintOf]
  | none =>
    rw [LineOutcome.course_printing hb, Act.complaintOf]
    cases (sh.handle state line).report <;> rfl

/-! ### Interactive runs as folds -/

/-- A blank line does nothing. -/
theorem handle_blank (sh : Shell) (state : ShellState) :
    sh.handle state "" = .printing state [] := rfl

theorem interactLine_eq (sh : Shell) (run : Interaction) (line : String) :
    sh.interactLine run line = ⟨(sh.handle run.state line).state,
      run.seen ++ (sh.handle run.state line).shown.map .line, (sh.handle run.state line).stopper⟩ := by
  rw [interactLine, perform_course]
  generalize sh.handle run.state line = o
  cases hb : o.broken with
  | none =>
    rw [LineOutcome.course_printing hb, LineOutcome.shown_of_unbroken hb,
      LineOutcome.stopper_of_unbroken hb, List.nil_append]
  | some t =>
    rw [LineOutcome.course_of_broken hb, List.nil_append]
    have hnature : (Failure.operation (.raised (.told t))).nature = t.nature := rfl
    by_cases ht : t.nature = .grammar
    · rw [LineOutcome.shown_of_grammar hb ht, LineOutcome.stopper_of_grammar hb ht]
      simp only [Break.ofTold, hnature, if_pos ht]
      rfl
    · rw [LineOutcome.shown_of_not_grammar hb ht, LineOutcome.stopper_of_not_grammar hb ht]
      simp only [Break.ofTold, hnature, if_neg ht]

/-- Takes one line of an interactive run that is no exit word. -/
def interactStep (sh : Shell) (run : Interaction) (line : String) : Interaction :=
  sh.interactLine { run with seen := run.seen ++ [.prompt] } (trimmed line)

theorem interactStep_state (sh : Shell) (run : Interaction) (line : String) :
    (sh.interactStep run line).state = (sh.handle run.state (trimmed line)).state := by
  rw [interactStep, interactLine_eq]

theorem interactStep_seen (sh : Shell) (run : Interaction) (line : String) :
    (sh.interactStep run line).seen = run.seen ++
      .prompt :: (sh.handle run.state (trimmed line)).shown.map .line := by
  rw [interactStep, interactLine_eq, List.append_assoc]
  rfl

theorem interactStep_broken (sh : Shell) (run : Interaction) (line : String) :
    (sh.interactStep run line).broken = (sh.handle run.state (trimmed line)).stopper := by
  rw [interactStep, interactLine_eq]

/-- The last prompt of an interactive run, and the empty line that ends it. -/
def Interaction.ended (run : Interaction) : Interaction :=
  { run with seen := run.seen ++ [.prompt, .line ""] }

/-- What an interactive run over lines has come to when it asks for one more. -/
def interactOver (sh : Shell) (state : ShellState) (lines : List String) : Interaction :=
  lines.foldl sh.interactStep ⟨started state, [], none⟩

section

variable {sh : Shell} {run : Interaction} {line : String} {lines rest : List String}

theorem interactStep_blank (hrun : run.broken = none) (h : trimmed line = "") :
    sh.interactStep run line = { run with seen := run.seen ++ [.prompt] } := by
  rw [interactStep, h, interactLine_eq, handle_blank, hrun]
  exact congrArg (Interaction.mk _ · none) (List.append_nil _)

/-- A line that is no exit word is taken, and the run goes on with the next one. -/
theorem interactFrom_cons (hrun : run.broken = none) (h : trimmed line ∉ exitWords)
    (hstep : (sh.interactStep run line).broken = none) :
    sh.interactFrom run (line :: rest) = sh.interactFrom (sh.interactStep run line) rest := by
  have hexit : exitWords.contains (trimmed line) = false := by simpa using h
  simp only [interactFrom, hexit]
  split
  · next hb => rw [interactStep_blank hrun (by simpa using hb)]
  · rw [interactStep] at hstep ⊢
    simp [hstep]

/-- A line that breaks the run ends it. -/
theorem interactFrom_cons_of_broken (hrun : run.broken = none) (h : trimmed line ∉ exitWords)
    (hstep : (sh.interactStep run line).broken ≠ none) :
    sh.interactFrom run (line :: rest) = sh.interactStep run line := by
  have hexit : exitWords.contains (trimmed line) = false := by simpa using h
  simp only [interactFrom, hexit]
  split
  · next hb => exact absurd hrun (by rwa [interactStep_blank hrun (by simpa using hb)] at hstep)
  · rw [interactStep] at hstep ⊢
    simp [Option.isSome_iff_ne_none.2 hstep]

/-- A run that is not broken takes every line: whatever lines are left out at the end, it is the fold of the
lines, which is not broken either, and then ends. -/
theorem interactFrom_take : ∀ {lines : List String} {run : Interaction}, run.broken = none →
    (∀ line ∈ lines, trimmed line ∉ exitWords) → (sh.interactFrom run lines).broken = none →
    ∀ k, sh.interactFrom run (lines.take k) = ((lines.take k).foldl sh.interactStep run).ended ∧
      ((lines.take k).foldl sh.interactStep run).broken = none
  | [], _, hrun, _, _, k => by
    rw [List.take_nil]
    exact ⟨rfl, hrun⟩
  | _ :: _, _, hrun, _, _, 0 => ⟨rfl, hrun⟩
  | line :: rest, run, hrun, h, hends, k + 1 => by
    have hline := h line List.mem_cons_self
    by_cases hstep : (sh.interactStep run line).broken = none
    · rw [interactFrom_cons hrun hline hstep] at hends
      rw [List.take_succ_cons, interactFrom_cons hrun hline hstep, List.foldl_cons]
      exact interactFrom_take hstep (fun l hl => h l (List.mem_cons_of_mem line hl)) hends k
    · rw [interactFrom_cons_of_broken hrun hline hstep] at hends
      exact absurd hends hstep

theorem interact_take {state : ShellState} (h : ∀ line ∈ lines, trimmed line ∉ exitWords)
    (hends : (sh.interact state lines).broken = none) (k : Nat) :
    sh.interact state (lines.take k) = (sh.interactOver state (lines.take k)).ended ∧
      (sh.interactOver state (lines.take k)).broken = none :=
  interactFrom_take rfl h hends k

theorem interact_eq_ended {state : ShellState} (h : ∀ line ∈ lines, trimmed line ∉ exitWords)
    (hends : (sh.interact state lines).broken = none) :
    sh.interact state lines = (sh.interactOver state lines).ended := by
  have htake := (interact_take h hends lines.length).1
  rwa [List.take_length] at htake

end

/-- Every line gets one prompt. -/
theorem count_prompt_interactOver (sh : Shell) (state : ShellState) (lines : List String) :
    (sh.interactOver state lines).seen.count .prompt = lines.length := by
  suffices h : ∀ run : Interaction, (lines.foldl sh.interactStep run).seen.count .prompt =
      run.seen.count .prompt + lines.length by
    have hstart := h ⟨started state, [], none⟩
    rwa [List.count_nil, Nat.zero_add] at hstart
  induction lines with
  | nil => exact fun _ => rfl
  | cons line lines ih =>
    intro run
    have hlines : ∀ printed : List String, (printed.map Sight.line).count .prompt = 0 :=
      fun printed => List.count_eq_zero.2 (by simp)
    rw [List.foldl_cons, ih, interactStep_seen, List.count_append, List.count_cons_self, hlines,
      List.length_cons]
    omega

/-- What was seen stays, and a prompt is next. -/
theorem seen_ended_foldl (sh : Shell) : ∀ (lines : List String) (run : Interaction),
    ∃ later, (lines.foldl sh.interactStep run).ended.seen = run.seen ++ .prompt :: later
  | [], _ => ⟨_, rfl⟩
  | line :: lines, run => by
    obtain ⟨later, hlater⟩ := seen_ended_foldl sh lines (sh.interactStep run line)
    rw [List.foldl_cons, hlater, interactStep_seen, List.append_assoc]
    exact ⟨_, rfl⟩

/-! ### Scripts as folds -/

/-- The script that consists of lines. -/
def joined (lines : List String) : String := "\n".intercalate lines

/-- No character of a line ends it. -/
def SingleLine (line : String) : Prop := ∀ c ∈ line.toList, Text.isLineEnd c = false

instance (line : String) : Decidable (SingleLine line) :=
  decidable_of_iff (line.toList.all (!Text.isLineEnd ·) = true) (by simp [SingleLine])

theorem scriptLines_joined {lines : List String} (h : ∀ line ∈ lines, SingleLine line) :
    scriptLines (joined lines) = (lines.map trimmed).filter (· != "") := by
  have hends : ∀ text ∈ lines.map String.toList, ∀ c ∈ text, Text.isLineEnd c = false := by
    intro text ht
    obtain ⟨line, hl, rfl⟩ := List.mem_map.1 ht
    exact h line hl
  have hreturn : '\r' ∉ ['\n'].intercalate (lines.map String.toList) := by
    intro hm
    rcases Text.mem_intercalate hm with e | ⟨text, ht, hc⟩
    · exact absurd e (by decide)
    · exact absurd (hends text ht _ hc) (by decide)
  have hback : (lines.map String.toList).map (fun text => trimmed (String.ofList text)) =
      lines.map trimmed := by simp
  have hlines : Text.lines (joined lines).toList =
      Text.linesFrom [] (['\n'].intercalate (lines.map String.toList)) := by
    rw [joined, String.toList_intercalate, Text.lines]
    exact congrArg _ (Text.joinLineEnds_of_not_mem hreturn)
  rw [scriptLines, hlines, ← hback]
  have hread := Text.linesFrom_intercalate hends
  generalize Text.linesFrom [] _ = read at hread ⊢
  rcases hread with e | e
  · rw [e]
  · rw [← e, List.map_append, List.filter_append]
    exact (List.append_nil _).symm

/-- A line of a script prints its outcome up to its report, which ends the script. -/
theorem scriptStep_eq (sh : Shell) {run : ScriptRun} (h : run.report = none) (line : String) :
    sh.scriptStep run line = ⟨(sh.handle run.state line).state,
      run.printed ++ (sh.handle run.state line).printed ++
        (if (sh.handle run.state line).complaint.isSome then []
          else (sh.handle run.state line).after),
      (sh.handle run.state line).complaint⟩ := by
  rw [scriptStep, h]
  dsimp only
  rw [perform_course, LineOutcome.complaint]
  generalize sh.handle run.state line = o
  cases hb : o.broken <;> cases hr : o.report <;>
    simp [LineOutcome.course, LineOutcome.allPrinted, Break.toReport, hb, hr]

theorem scriptStep_of_report {sh : Shell} {run : ScriptRun} {r : Report}
    (h : run.report = some r) (line : String) : sh.scriptStep run line = run := by
  rw [scriptStep, h]

/-- A script that has ended has no use for further lines. -/
theorem foldl_scriptStep_of_report {sh : Shell} {run : ScriptRun} {r : Report}
    (h : run.report = some r) : ∀ lines : List String, lines.foldl sh.scriptStep run = run
  | [] => rfl
  | line :: rest => by rw [List.foldl_cons, scriptStep_of_report h, foldl_scriptStep_of_report h rest]

theorem scriptStep_blank (sh : Shell) (run : ScriptRun) : sh.scriptStep run "" = run := by
  cases h : run.report with
  | some r => exact scriptStep_of_report h ""
  | none =>
    rw [scriptStep_eq sh h, handle_blank]
    cases run
    simp_all [LineOutcome.printing, LineOutcome.complaint]

/-- Takes a line of a script as it stands in its text. -/
def scriptTake (sh : Shell) (run : ScriptRun) (line : String) : ScriptRun :=
  sh.scriptStep run (trimmed line)

/-- What a script over lines has come to. -/
def scriptOver (sh : Shell) (state : ShellState) (lines : List String) : ScriptRun :=
  lines.foldl sh.scriptTake ⟨started state, [], none⟩

theorem runScript_joined {sh : Shell} {state : ShellState} {lines : List String}
    (h : ∀ line ∈ lines, SingleLine line) :
    sh.runScript state (joined lines) = sh.scriptOver state lines := by
  rw [runScript, scriptLines_joined h, List.foldl_filter, List.foldl_map, scriptOver]
  congr 1
  funext run line
  split
  · rfl
  · next hb =>
    have hb : trimmed line = "" := by simpa using hb
    rw [scriptTake, hb, scriptStep_blank]

theorem foldl_scriptTake_of_report {sh : Shell} {run : ScriptRun} {r : Report}
    (h : run.report = some r) (lines : List String) : lines.foldl sh.scriptTake run = run := by
  have hsteps : (lines.map trimmed).foldl sh.scriptStep run = run := foldl_scriptStep_of_report h _
  rwa [List.foldl_map] at hsteps

/-! ### Agreement -/

/-- A line that an interactive run and a script both read as one line that is no exit word. -/
structure Scriptable (line : String) : Prop where
  noExit : trimmed line ∉ exitWords
  single : SingleLine line

/-- What an interactive run over lines reports for the line at a place. -/
def reportAt (sh : Shell) (state : ShellState) (lines : List String) (k : Nat) : Option Report :=
  lines[k]?.bind fun line => Act.complaintOf ((sh.perform .printing (trimmed line)).runFrom
    ⟨(sh.interact state (lines.take k)).state, [], []⟩)

/-- A script ends with a report that the interactive run has for the line at a place: the script is
left in the state that the interactive run has right after that line, and no later line matters. -/
structure StopsAt (d : Directory) (m n : Option Nat) (state : ShellState) (lines : List String)
    (k : Nat) (r : Report) : Prop where
  report : (runScript ⟨d, n⟩ state (joined lines)).report = some r
  finalState : (runScript ⟨d, n⟩ state (joined lines)).state =
    (interact ⟨d, m⟩ state (lines.take (k + 1))).state
  /-- The interactive run prints the message after the prompt of the line and before the next. -/
  printed : ∃ seen before after later, (interact ⟨d, m⟩ state lines).seen =
      seen ++ .prompt :: (before ++ r.message :: after).map .line ++ .prompt :: later ∧
    seen.count .prompt = k
  unread : ∀ later, (∀ line ∈ later, SingleLine line) →
    runScript ⟨d, n⟩ state (joined (lines.take (k + 1) ++ later)) =
      runScript ⟨d, n⟩ state (joined lines)

/-- A script without a report has come to the state of an interactive run. -/
structure Agrees (script : ScriptRun) (run : Interaction) : Prop where
  report : script.report = none
  state : script.state = run.state

section

variable {d : Directory} {m n : Option Nat} {script : ScriptRun} {run : Interaction}

/-- One line makes the same state of a script and of an interactive run that agree, and the script
has the report that the line gets. -/
theorem Agrees.take (h : Agrees script run) (line : String) :
    (scriptTake ⟨d, n⟩ script line).report =
        (handle ⟨d, m⟩ run.state (trimmed line)).complaint ∧
      (scriptTake ⟨d, n⟩ script line).state = (interactStep ⟨d, m⟩ run line).state := by
  have hsame := handle_same d n m run.state (trimmed line)
  rw [scriptTake, scriptStep_eq _ h.report, interactStep_state, h.state]
  dsimp only
  exact ⟨LineOutcome.complaint_congr hsame, hsame.state⟩

variable {state : ShellState} {lines : List String}

theorem interact_take_state {sh : Shell} (h : ∀ line ∈ lines, Scriptable line)
    (hends : (sh.interact state lines).broken = none) (k : Nat) :
    (sh.interact state (lines.take k)).state = (sh.interactOver state (lines.take k)).state := by
  rw [(interact_take (fun line hl => (h line hl).noExit) hends k).1]
  rfl

theorem reportAt_eq {sh : Shell} (h : ∀ line ∈ lines, Scriptable line)
    (hends : (sh.interact state lines).broken = none) {k : Nat} {line : String}
    (hk : lines[k]? = some line) : reportAt sh state lines k =
      (sh.handle (sh.interactOver state (lines.take k)).state (trimmed line)).complaint := by
  rw [reportAt, hk, Option.bind_some, complaintOf_perform, interact_take_state h hends]

theorem scriptOver_take_succ {sh : Shell} {k : Nat} {line : String} (hk : lines[k]? = some line) :
    sh.scriptOver state (lines.take (k + 1)) =
      sh.scriptTake (sh.scriptOver state (lines.take k)) line := by
  rw [List.take_add_one, hk, scriptOver, scriptOver, List.foldl_append, Option.toList_some,
    List.foldl_cons, List.foldl_nil]

theorem interactOver_take_succ {sh : Shell} {k : Nat} {line : String} (hk : lines[k]? = some line) :
    sh.interactOver state (lines.take (k + 1)) =
      sh.interactStep (sh.interactOver state (lines.take k)) line := by
  rw [List.take_add_one, hk, interactOver, interactOver, List.foldl_append, Option.toList_some,
    List.foldl_cons, List.foldl_nil]

/-- A script agrees with the interactive run up to its first report. -/
theorem agrees_take (n : Option Nat) (h : ∀ line ∈ lines, Scriptable line)
    (hends : (interact ⟨d, m⟩ state lines).broken = none) : ∀ k,
    (∀ j < k, reportAt ⟨d, m⟩ state lines j = none) →
    Agrees (scriptOver ⟨d, n⟩ state (lines.take k)) (interactOver ⟨d, m⟩ state (lines.take k))
  | 0, _ => ⟨rfl, rfl⟩
  | k + 1, hnone => by
    have ih := agrees_take n h hends k fun j hj => hnone j (by omega)
    cases hk : lines[k]? with
    | none =>
      rw [List.take_add_one, hk, Option.toList_none, List.append_nil]
      exact ih
    | some line =>
      obtain ⟨hreport, hstate⟩ := ih.take line
      rw [← reportAt_eq h hends hk, hnone k (by omega)] at hreport
      rw [scriptOver_take_succ hk, interactOver_take_succ hk]
      exact ⟨hreport, hstate⟩

/-- What is seen of an interactive run splits at the line at a place: a prompt for each line before
it, then what the line prints, and then a prompt again. -/
theorem seen_interact {sh : Shell} (h : ∀ line ∈ lines, Scriptable line)
    (hends : (sh.interact state lines).broken = none) {k : Nat} {line : String}
    (hk : lines[k]? = some line) : ∃ seen later, (sh.interact state lines).seen = seen ++ .prompt ::
      (sh.handle (sh.interactOver state (lines.take k)).state (trimmed line)).shown.map .line ++
        .prompt :: later ∧
      seen.count .prompt = k := by
  have hlength : k < lines.length := (List.getElem?_eq_some_iff.1 hk).1
  have hfold : (lines.drop (k + 1)).foldl sh.interactStep
      (sh.interactOver state (lines.take (k + 1))) = sh.interactOver state lines := by
    rw [interactOver, ← List.foldl_append, List.take_append_drop, interactOver]
  obtain ⟨later, hlater⟩ := seen_ended_foldl sh (lines.drop (k + 1))
    (sh.interactOver state (lines.take (k + 1)))
  rw [hfold, interactOver_take_succ hk, interactStep_seen,
    ← interact_eq_ended (fun line hl => (h line hl).noExit) hends] at hlater
  refine ⟨_, later, hlater, ?_⟩
  rw [count_prompt_interactOver, List.length_take, Nat.min_eq_left (Nat.le_of_lt hlength)]

/-- No line that is taken breaks a run that is not broken. -/
theorem stopper_of_take {sh : Shell} (h : ∀ line ∈ lines, Scriptable line)
    (hends : (sh.interact state lines).broken = none) {k : Nat} {line : String}
    (hk : lines[k]? = some line) :
    (sh.handle (sh.interactOver state (lines.take k)).state (trimmed line)).stopper = none := by
  have htake := (interact_take (fun line hl => (h line hl).noExit) hends (k + 1)).2
  rwa [interactOver_take_succ hk, interactStep_broken] at htake

/-- A script that has a report for a line has no use for what follows. -/
theorem scriptOver_append {sh : Shell} {r : Report}
    (h : (sh.scriptOver state lines).report = some r) (later : List String) :
    sh.scriptOver state (lines ++ later) = sh.scriptOver state lines := by
  rw [scriptOver, List.foldl_append]
  exact foldl_scriptTake_of_report h later

theorem stopsAt (n : Option Nat) (h : ∀ line ∈ lines, Scriptable line)
    (hends : (interact ⟨d, m⟩ state lines).broken = none) {k : Nat} {r : Report}
    (hr : reportAt ⟨d, m⟩ state lines k = some r)
    (hnone : ∀ j < k, reportAt ⟨d, m⟩ state lines j = none) : StopsAt d m n state lines k r := by
  have hsingle : ∀ line ∈ lines, SingleLine line := fun line hl => (h line hl).single
  obtain ⟨line, hk⟩ : ∃ line, lines[k]? = some line := by
    cases hk : lines[k]? with
    | none => simp [reportAt, hk] at hr
    | some line => exact ⟨line, rfl⟩
  rw [reportAt_eq h hends hk] at hr
  obtain ⟨hreport, hstate⟩ := (agrees_take n h hends k hnone).take line
  rw [hr, ← scriptOver_take_succ hk] at hreport
  rw [← scriptOver_take_succ hk, ← interactOver_take_succ hk] at hstate
  -- the script over all lines is the one that ends with line `k`
  have hall : scriptOver ⟨d, n⟩ state lines = scriptOver ⟨d, n⟩ state (lines.take (k + 1)) := by
    have happend := scriptOver_append hreport (lines.drop (k + 1))
    rwa [List.take_append_drop] at happend
  refine ⟨?_, ?_, ?_, ?_⟩
  · rw [runScript_joined hsingle, hall, hreport]
  · rw [runScript_joined hsingle, hall, interact_take_state h hends, hstate]
  · obtain ⟨seen, later, hseen, hcount⟩ := seen_interact h hends hk
    obtain ⟨before, after, hshown⟩ := LineOutcome.exists_shown hr (stopper_of_take h hends hk)
    rw [hshown] at hseen
    exact ⟨seen, before, after, later, hseen, hcount⟩
  · intro later hl
    have hsome : ∀ line ∈ lines.take (k + 1) ++ later, SingleLine line := by
      intro line hmem
      rcases List.mem_append.1 hmem with hm | hm
      · exact hsingle line (List.mem_of_mem_take hm)
      · exact hl line hm
    rw [runScript_joined hsome, scriptOver_append hreport, runScript_joined hsingle, hall]

/-- Scripts and interactive runs that end with their input agree: without a report both end in one state, and
otherwise the script ends with the first report of the interactive run, right after the line that it is
about. -/
theorem script_agrees (d : Directory) (m n : Option Nat) (state : ShellState) (lines : List String)
    (h : ∀ line ∈ lines, Scriptable line) (hends : (interact ⟨d, m⟩ state lines).broken = none) :
    ((∀ k, reportAt ⟨d, m⟩ state lines k = none) →
      (runScript ⟨d, n⟩ state (joined lines)).report = none ∧
        (runScript ⟨d, n⟩ state (joined lines)).state = (interact ⟨d, m⟩ state lines).state) ∧
    ∀ k r, reportAt ⟨d, m⟩ state lines k = some r →
      (∀ j < k, reportAt ⟨d, m⟩ state lines j = none) → StopsAt d m n state lines k r := by
  refine ⟨fun hnone => ?_, fun k r hr hnone => stopsAt n h hends hr hnone⟩
  obtain ⟨hreport, hstate⟩ := agrees_take n h hends lines.length fun j _ => hnone j
  have hinter := interact_take_state h hends lines.length
  rw [List.take_length] at hreport hstate hinter
  rw [runScript_joined fun line hl => (h line hl).single]
  exact ⟨hreport, hstate.trans hinter.symm⟩

end

/-- The lines of `script_agrees_undefined`: the third one asks for a variable that is not defined. -/
def undefinedLines : List String := [" set var x='on'", "", "\tget var y ", "set debug on"]

/-- A state over an empty disk, with a network that reaches no host. -/
def emptyState : ShellState := .sample .bare ⟨1, []⟩

theorem script_agrees_undefined : (∀ line ∈ undefinedLines, Scriptable line) ∧
    (interact ⟨⟨[]⟩, some 80⟩ emptyState undefinedLines).broken = none ∧
    (runScript ⟨⟨[]⟩, none⟩ emptyState (joined undefinedLines)).report =
      some ⟨"Error: $y is undefined", .none⟩ ∧
    (runScript ⟨⟨[]⟩, none⟩ emptyState (joined undefinedLines)).state =
      (interact ⟨⟨[]⟩, some 80⟩ emptyState (undefinedLines.take 3)).state := by
  have h : ∀ line ∈ undefinedLines, Scriptable line := by
    intro line hl
    simp only [undefinedLines, List.mem_cons, List.not_mem_nil, or_false] at hl
    rcases hl with rfl | rfl | rfl | rfl <;> exact ⟨by decide +kernel, by decide +kernel⟩
  have hends : (interact ⟨⟨[]⟩, some 80⟩ emptyState undefinedLines).broken = none := by decide +kernel
  have hstops := (script_agrees ⟨[]⟩ (some 80) none emptyState undefinedLines h hends).2 2
    ⟨"Error: $y is undefined", .none⟩ (by decide +kernel) (by decide +kernel)
  exact ⟨h, hends, hstops.report, hstops.finalState⟩

end Shell

end OperatorConsole
