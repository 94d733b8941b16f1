import OperatorConsole.Proofs.Session.Agreement
import OperatorConsole.Proofs.Session.Variables

/-!
What a script leaves. Its lines are carried out one after the other up to the first report, and the
shell that comes after it begins with what they left.
-/
namespace OperatorConsole.Shell

/-! ### The lines of a script -/

/-- Lines are carried out one after the other up to the first report: the state that they leave, and
the report, if there is one. -/
inductive CarriesOut (sh : Shell) : ShellState → List String → ShellState → Option Report → Prop
  | done {state} : CarriesOut sh state [] state none
  | stop {state line rest after printed reported b}
      (h : (sh.perform .ending line).runFrom ⟨state, [], []⟩ = (.error b, ⟨after, printed, reported⟩)) :
      CarriesOut sh state (line :: rest) after (some b.toReport)
  | next {state line rest after printed reported left report}
      (h : (sh.perform .ending line).runFrom ⟨state, [], []⟩ = (.ok (), ⟨after, printed, reported⟩))
      (hrest : CarriesOut sh after rest left report) : CarriesOut sh state (line :: rest) left report

section

variable {sh : Shell} {state left left' : ShellState} {line : String} {lines : List String}
  {report report' : Option Report} {r : Report}

theorem CarriesOut.unique (h : sh.CarriesOut state lines left report)
    (h' : sh.CarriesOut state lines left' report') : left = left' ∧ report = report' := by
  induction h with
  | done =>
    cases h'
    exact ⟨rfl, rfl⟩
  | stop h =>
    cases h' with
    | stop h' =>
      obtain ⟨hb, hc⟩ := Prod.mk.inj (h.symm.trans h')
      cases hb
      cases hc
      exact ⟨rfl, rfl⟩
    | next h' => simp [h] at h'
  | next h _ ih =>
    cases h' with
    | stop h' => simp [h] at h'
    | next h' hrest =>
      cases (Prod.mk.inj (h.symm.trans h')).2
      exact ih hrest

/-- A line that a script ends with. -/
theorem carriesOut_of_complaint (h : (sh.handle state line).complaint = some r) (rest : List String) :
    sh.CarriesOut state (line :: rest) (sh.handle state line).state (some r) := by
  have hcourse := perform_course sh .ending ⟨state, [], []⟩ line
  rw [LineOutcome.complaint] at h
  cases hb : (sh.handle state line).broken with
  | some t =>
    rw [LineOutcome.course_of_broken hb] at hcourse
    rw [hb] at h
    exact h ▸ .stop hcourse
  | none =>
    rw [hb] at h
    rw [LineOutcome.course_of_report hb h] at hcourse
    exact .stop hcourse

/-- A line that a script goes on after. -/
theorem carriesOut_of_quiet (h : (sh.handle state line).complaint = none) {rest : List String}
    (hrest : sh.CarriesOut (sh.handle state line).state rest left report) :
    sh.CarriesOut state (line :: rest) left report := by
  have hcourse := perform_course sh .ending ⟨state, [], []⟩ line
  rw [LineOutcome.complaint] at h
  cases hb : (sh.handle state line).broken with
  | some t =>
    rw [hb] at h
    cases h
  | none =>
    rw [hb] at h
    rw [LineOutcome.course_of_quiet hb h] at hcourse
    exact .next hcourse hrest

theorem foldl_scriptStep_carriesOut : ∀ (lines : List String) (run : ScriptRun), run.report = none →
    sh.CarriesOut run.state lines (lines.foldl sh.scriptStep run).state
      (lines.foldl sh.scriptStep run).report
  | [], run, hrun => by
    rw [List.foldl_nil, hrun]
    exact .done
  | line :: rest, run, hrun => by
    have hstep := scriptStep_eq sh hrun line
    have hstate : (sh.scriptStep run line).state = (sh.handle run.state line).state := by rw [hstep]
    have hreport : (sh.scriptStep run line).report = (sh.handle run.state line).complaint := by rw [hstep]
    rw [List.foldl_cons]
    cases hr : (sh.handle run.state line).complaint with
    | some r =>
      rw [hr] at hreport
      rw [foldl_scriptStep_of_report hreport, hreport, hstate]
      exact carriesOut_of_complaint hr rest
    | none =>
      have hrest := foldl_scriptStep_carriesOut rest (sh.scriptStep run line) (hreport.trans hr)
      rw [hstate] at hrest
      exact carriesOut_of_quiet hr hrest

/-- A script carries out its lines, the reserved variables being empty at first. -/
theorem carriesOut_iff {text : String} :
    sh.CarriesOut (started state) (scriptLines text) left report ↔
      left = (sh.runScript state text).state ∧ report = (sh.runScript state text).report := by
  have hrun : sh.CarriesOut (started state) (scriptLines text) (sh.runScript state text).state
      (sh.runScript state text).report :=
    foldl_scriptStep_carriesOut (scriptLines text) ⟨started state, [], none⟩ rfl
  constructor
  · exact fun h => h.unique hrun
  · rintro ⟨rfl, rfl⟩
    exact hrun

end

/-! ### After a script -/

/-- What a shell begins with when another one left a state: the same world with the client that all
operations share, the same choices, and the same variables but for the reserved ones, which are
empty. -/
structure BeginsAfter (left begun : ShellState) : Prop where
  world : begun.world = left.world
  debug : begun.session.debug = left.session.debug
  downloadDir : begun.session.downloadDir = left.session.downloadDir
  value (name : String) : begun.session.value? name =
    if name ∈ reserved then some "" else left.session.value? name

theorem started_beginsAfter (left : ShellState) : BeginsAfter left (started left) :=
  ⟨rfl, rfl, rfl, fun name => left.session.value?_clearLast name⟩

end OperatorConsole.Shell
