import OperatorConsole.Proofs.Session.Execution
import OperatorConsole.Proofs.Session.LastResponse

/-!
Lines that fail. A line that gives no response leaves the session as it was, and the world as the
operation left it; if no operation was called, all that happened is that content of arguments was asked
for. A line that reads or changes the session and reports an error changes nothing. That no operation
was called is said by replacing what operations do: the line comes to the same, whatever they would do.
-/
namespace OperatorConsole

/-! ### Other operations -/

/-- What the operations of services do when they are called. -/
abbrev Deeds := Service → Operation → Target → List Value → World → Outcome × World

/-- The operation of the same name and parameters that does something else. -/
def Operation.doing (o : Operation) (deed : Target → List Value → World → Outcome × World) :
    Operation :=
  { o with perform := deed }

/-- The service whose operations do something else. -/
def Service.doing (s : Service) (deeds : Deeds) : Service :=
  { s with operations := s.operations.map fun o => o.doing (deeds s o) }

/-- The directory whose operations do something else. -/
def Directory.doing (d : Directory) (deeds : Deeds) : Directory := ⟨d.services.map (·.doing deeds)⟩

/-- The shell whose operations do something else. -/
def Shell.doing (sh : Shell) (deeds : Deeds) : Shell := { sh with directory := sh.directory.doing deeds }

namespace Directory

variable {d : Directory} {deeds : Deeds} {line : String} {vars : Variables} {w w' : World}
  {f : Failure} {s : Service} {o : Operation} {arguments : List Argument}

theorem service?_doing (d : Directory) (deeds : Deeds) (name : String) :
    (d.doing deeds).service? name = (d.service? name).map (·.doing deeds) := by
  rw [service?, service?, doing, List.find?_map]
  rfl

theorem operation_doing (s : Service) (deeds : Deeds) (verb : String) :
    operation (s.doing deeds) verb = (operation s verb).map fun o => o.doing (deeds s o) := by
  have hfilter : (s.doing deeds).operations.filter (·.verb == verb) =
      (s.operations.filter (·.verb == verb)).map fun o => o.doing (deeds s o) := by
    rw [Service.doing, List.filter_map]
    rfl
  unfold operation
  rw [hfilter]
  cases s.operations.filter (·.verb == verb) with
  | nil => rfl
  | cons o rest => cases rest <;> rfl

/-- Names mean the same operation, whatever it does. -/
theorem resolve_doing (d : Directory) (deeds : Deeds) (service verb : String) :
    (d.doing deeds).resolve service verb = (d.resolve service verb).map fun (s, o) =>
      (s.doing deeds, o.doing (deeds s o)) := by
  unfold resolve
  rw [service?_doing]
  cases d.service? service with
  | none => rfl
  | some s =>
    simp only [Option.map_some, operation_doing]
    cases operation s verb <;> rfl

/-- A line is read the same, whatever the operation does that it calls. -/
theorem read_doing (d : Directory) (deeds : Deeds) (line : String) :
    (∃ f, d.read line = .error f ∧ (d.doing deeds).read line = .error f) ∨
      ∃ s o arguments, d.read line = .ok (s, o, arguments) ∧
        (d.doing deeds).read line = .ok (s.doing deeds, o.doing (deeds s o), arguments) := by
  unfold read
  cases Command.read line with
  | error fault => exact .inl ⟨_, rfl, rfl⟩
  | ok command =>
    simp only [mapError_ok, ok_bind, resolve_doing]
    cases d.resolve command.service command.verb with
    | error fault => exact .inl ⟨_, rfl, rfl⟩
    | ok found => exact .inr ⟨_, _, _, rfl, rfl⟩

theorem help_doing (d : Directory) (deeds : Deeds) (service : String) :
    (d.doing deeds).help service = d.help service := by
  have hall : (d.doing deeds).describeAll = d.describeAll := by
    simp only [describeAll, doing, List.map_map]
    rfl
  have hone : (d.doing deeds).describe service = d.describe service := by
    unfold describe
    rw [service?_doing]
    cases d.service? service with
    | none => rfl
    | some s =>
      simp only [Option.map_some, Service.doing, List.map_map]
      rfl
  rw [help, help, hall, hone]

/-- A failure before the call does not depend on what operations do. -/
theorem execute_doing (deeds : Deeds) (h : d.execute vars w line = (.error f, w'))
    (hf : f.IsBeforeCall) : (d.doing deeds).execute vars w line = (.error f, w') := by
  have hdoing := d.read_doing deeds line
  obtain ⟨hread, rfl⟩ | ⟨s, o, arguments, fault, hread, hbind, rfl, rfl⟩ := execution_beforeCall h hf
  · obtain ⟨f', hread', hdoing⟩ | ⟨s, o, arguments, hread', -⟩ := hdoing
    · obtain rfl : f = f' := by simpa [hread] using hread'
      rw [execute, hdoing]
    · simp [hread] at hread'
  · obtain ⟨f', hread', -⟩ | ⟨s', o', arguments', hread', hdoing⟩ := hdoing
    · simp [hread] at hread'
    · obtain ⟨rfl, rfl, rfl⟩ : s = s' ∧ o = o' ∧ arguments = arguments' := by
        simpa [hread] using hread'
      rw [execute_of_read hdoing]
      exact call_of_bind_error hbind

end Directory

/-! ### Lines that read or change the session -/

/-- A change of a session is made only if the line sets something and nothing is reported. -/
def Change.IsCareful (change : Change) (isSet : Bool) (s : Session) : Prop :=
  change.session = s ∨ isSet = true ∧ change.report = none

namespace Shell

section

variable (sh : Shell) (s : Session) (isSet : Bool)

theorem changeDebug_isCareful (arguments : List Argument) :
    (changeDebug s isSet arguments).IsCareful isSet s := by
  unfold changeDebug
  split
  · exact .inl rfl
  · split
    · exact .inr ⟨rfl, rfl⟩
    · exact .inl rfl
  · exact .inl rfl

theorem changeDownloadDir_isCareful (arguments : List Argument) :
    (changeDownloadDir s isSet arguments).IsCareful isSet s := by
  unfold changeDownloadDir
  split
  · exact .inl rfl
  · split
    · exact .inr ⟨rfl, rfl⟩
    · exact .inl rfl
  · exact .inl rfl

theorem readVariable_isCareful (a : Argument) : (sh.readVariable s a).IsCareful isSet s := by
  unfold readVariable
  split
  · exact .inl rfl
  · split <;> exact .inl rfl

theorem writeVariable_isCareful (a : Argument) : (sh.writeVariable s a).IsCareful true s := by
  unfold writeVariable
  split
  · split
    · exact .inr ⟨rfl, rfl⟩
    · exact .inl rfl
  · split
    · exact .inr ⟨rfl, rfl⟩
    · exact .inr ⟨rfl, rfl⟩
    · split
      · exact .inr ⟨rfl, rfl⟩
      · exact .inl rfl

theorem changeVariable_isCareful (arguments : List Argument) :
    (sh.changeVariable s isSet arguments).IsCareful isSet s := by
  unfold changeVariable
  split
  · split
    · next h =>
      subst h
      exact writeVariable_isCareful sh s _
    · exact readVariable_isCareful sh s isSet _
  · exact .inl rfl

theorem change_isCareful (c : Command) : (sh.change s isSet c).IsCareful isSet s := by
  unfold change
  split
  · exact changeDebug_isCareful s isSet _
  · exact changeDownloadDir_isCareful s isSet _
  · exact changeVariable_isCareful sh s isSet _
  · exact .inl rfl

end

/-! ### First words -/

/-- The first word of a line. -/
def firstWord? (line : String) : Option String :=
  ((Text.words line.toList).map String.ofList).head?

variable {sh : Shell} {p : Policy} {state : ShellState} {printed : List String}
  {reported : List Report} {line : String} {w : World} {f : Failure} {r : Report}

theorem classify_vars : classify "vars" = .listing := by rfl

theorem ne_vars_of_firstWord? {first : String} (h : firstWord? line = some first)
    (hne : first ≠ "vars") : line ≠ "vars" := by
  rintro rfl
  have hvars : firstWord? "vars" = some "vars" := by decide +kernel
  exact hne (Option.some.inj (h.symm.trans hvars))

theorem classify_of_help (h : firstWord? line = some "help") :
    ∃ service, classify line = .help service := by
  have hvars := ne_vars_of_firstWord? h (by decide)
  unfold firstWord? at h
  unfold classify
  cases hwords : (Text.words line.toList).map String.ofList with
  | nil => simp [hwords] at h
  | cons first others =>
    obtain rfl : first = "help" := by simpa [hwords] using h
    exact ⟨others.head?.getD "", by simp [hvars]⟩

/-- A line that begins with `get` or `set` is such a command, or no command at all. -/
theorem classify_of_change (isSet : Bool)
    (h : firstWord? line = some (if isSet then "set" else "get")) :
    (∃ c, classify line = .change isSet c) ∨
      (classify line = .execute ∧ ∃ fault, Command.read line = .error fault) := by
  have hvars := ne_vars_of_firstWord? h (by cases isSet <;> decide)
  unfold firstWord? at h
  unfold classify
  cases hwords : (Text.words line.toList).map String.ofList with
  | nil => simp [hwords] at h
  | cons first others =>
    obtain rfl : first = if isSet then "set" else "get" := by simpa [hwords] using h
    cases hread : Command.read line with
    | ok c => exact .inl ⟨c, by cases isSet <;> simp [hvars]⟩
    | error fault => exact .inr ⟨by cases isSet <;> simp [hvars], fault, rfl⟩

/-! ### What comes of a line -/

theorem handle_of_failure (hline : classify line = .execute)
    (h : sh.directory.execute state.session.vars state.world line = (.error f, w)) :
    sh.handle state line = failureOutcome ⟨state.session, w⟩ f := by
  rw [handle, hline]
  simp only [executeLine, h]

theorem helpLines_doing (sh : Shell) (deeds : Deeds) (service : String) :
    (sh.doing deeds).helpLines service = sh.helpLines service := by
  simp only [helpLines, doing, Directory.help_doing]

/-- A line that calls no operation comes to the same, whatever operations do. -/
theorem handle_doing (deeds : Deeds) (h : classify line = .execute → ∃ f w, f.IsBeforeCall ∧
      sh.directory.execute state.session.vars state.world line = (.error f, w)) :
    (sh.doing deeds).handle state line = sh.handle state line := by
  cases hline : classify line with
  | nothing | listing => simp only [handle, hline]
  | help service =>
    -- help lists names and parameters only
    simp only [handle, hline, helpLines_doing]
  | change isSet c =>
    -- a change reads nothing of a shell but its limit
    simp only [handle, hline]
    rfl
  | execute =>
    obtain ⟨f, w, hf, hfails⟩ := h hline
    rw [handle_of_failure hline hfails]
    exact handle_of_failure hline (Directory.execute_doing deeds hfails hf)

/-- No operation is called by a line: whatever they would do, the line is carried out the same. -/
def CallsNothing (sh : Shell) (p : Policy) (c : Course) (line : String) : Prop :=
  ∀ deeds : Deeds, ((sh.doing deeds).perform p line).runFrom c = (sh.perform p line).runFrom c

theorem callsNothing_of_execute {c : Course} (h : classify line = .execute → ∃ f w, f.IsBeforeCall ∧
      sh.directory.execute c.state.session.vars c.state.world line = (.error f, w)) :
    sh.CallsNothing p c line := fun deeds => by
  rw [perform_course, perform_course, handle_doing deeds h]

/-- A line that begins with `get` or `set` leaves everything as it was, or it sets something and reports
nothing. -/
theorem handle_isCareful (isSet : Bool)
    (hfirst : firstWord? line = some (if isSet then "set" else "get")) :
    (sh.handle state line).state = state ∨
      isSet = true ∧ (sh.handle state line).report = none ∧ (sh.handle state line).broken = none := by
  obtain ⟨c, hline⟩ | ⟨hline, fault, hread⟩ := classify_of_change isSet hfirst
  · have hhandle : sh.handle state line =
        (sh.change state.session isSet c).outcome state.world := by rw [handle, hline]
    rw [hhandle, Change.outcome]
    obtain hsession | ⟨hset, hnone⟩ := change_isCareful sh state.session isSet c
    · exact .inl (by rw [hsession])
    · exact .inr ⟨hset, by rw [hnone, Option.map_none], rfl⟩
  · refine .inl ?_
    rw [handle_of_failure hline (Directory.execute_of_command hread), failureOutcome_state]

/-- What is quiet makes no report. -/
theorem not_reported_of_quiet {o : LineOutcome} (hb : o.broken = none) (hr : o.report = none) :
    ¬ p.Reported printed reported (o.course p printed reported) r := by
  rw [LineOutcome.course_of_quiet hb hr]
  cases p with
  | printing =>
    rintro ⟨-, hreported, -⟩
    simp at hreported
  | ending =>
    rintro ⟨⟨⟩, -⟩

/-- No operation is called by a line that reads or changes the session. -/
theorem callsNothing_of_change {c : Course} (isSet : Bool)
    (hfirst : firstWord? line = some (if isSet then "set" else "get")) :
    sh.CallsNothing p c line := by
  refine callsNothing_of_execute fun hexecute => ?_
  obtain ⟨command, hline⟩ | ⟨-, fault, hread⟩ := classify_of_change isSet hfirst
  · rw [hline] at hexecute
    cases hexecute
  · exact ⟨.grammar fault, c.state.world, trivial, Directory.execute_of_command hread⟩

/-! ### Main result -/

/-- A line that fails changes nothing. -/
structure FailsUnchanged (sh : Shell) (p : Policy) (c : Course) (line : String) (after : ShellState) :
    Prop where
  /-- A line without a response leaves the session, and the world is the one that the call left. -/
  ofFailure : ∀ f w, classify line = .execute →
    sh.directory.execute c.state.session.vars c.state.world line = (.error f, w) →
    after = ⟨c.state.session, w⟩
  /-- Before the call, content of arguments is asked for and nothing else happens. -/
  ofBeforeCall : ∀ f w, classify line = .execute →
    sh.directory.execute c.state.session.vars c.state.world line = (.error f, w) → f.IsBeforeCall →
    (∃ requests, w = c.state.world.withSent requests) ∧ sh.CallsNothing p c line
  /-- A line that reads or changes the session and reports an error. -/
  ofReport : ∀ (isSet : Bool) r, firstWord? line = some (if isSet then "set" else "get") →
    p.Reported c.printed c.reported ((sh.perform p line).runFrom c) r →
    after = c.state ∧ sh.CallsNothing p c line
  /-- A line that only reads. -/
  ofReading : line = "vars" ∨ firstWord? line = some "help" ∨ firstWord? line = some "get" →
    after = c.state ∧ sh.CallsNothing p c line

/-- Whatever the shell, the state and the line are, and whether reports are printed or end the act, a
line that fails leaves the session as it was and saves nothing; one that fails before the call, or
reads or changes the session, calls no operation; and lines that only read change nothing. -/
theorem perform_failsUnchanged (sh : Shell) (p : Policy) (c : Course) (line : String) :
    sh.FailsUnchanged p c line ((sh.perform p line).runFrom c).2.state := by
  rw [perform_state]
  constructor
  case ofFailure =>
    intro f w hline hfails
    rw [handle_of_failure hline hfails, failureOutcome_state]
  case ofBeforeCall =>
    intro f w hline hfails hf
    refine ⟨?_, callsNothing_of_execute fun _ => ⟨f, w, hf, hfails⟩⟩
    obtain ⟨-, rfl⟩ | ⟨s, o, arguments, fault, -, -, -, rfl⟩ :=
      Directory.execution_beforeCall hfails hf
    · exact ⟨[], by simp [World.withSent]⟩
    · exact ⟨_, rfl⟩
  case ofReport =>
    intro isSet r hfirst hreported
    refine ⟨(handle_isCareful isSet hfirst).resolve_right ?_, callsNothing_of_change isSet hfirst⟩
    rintro ⟨-, hreport, hbroken⟩
    rw [perform_course] at hreported
    exact not_reported_of_quiet hbroken hreport hreported
  case ofReading =>
    rintro (rfl | hhelp | hget)
    · refine ⟨by rw [handle, classify_vars]; rfl, callsNothing_of_execute fun h => ?_⟩
      rw [classify_vars] at h
      cases h
    · obtain ⟨service, hline⟩ := classify_of_help hhelp
      refine ⟨by rw [handle, hline]; rfl, callsNothing_of_execute fun h => ?_⟩
      rw [hline] at h
      cases h
    · exact ⟨(handle_isCareful false hget).resolve_right (by simp),
        callsNothing_of_change false hget⟩

theorem pictureShell_execute_unknown (state : ShellState) :
    pictureShell.directory.execute state.session.vars state.world "Picture put" =
      (.error (.resolution (.unknownVerb "Picture" "put")), state.world) := by
  have hcommand : Command.read "Picture put" = .ok ⟨"Picture", "put", []⟩ := by decide +kernel
  have hread : pictureShell.directory.read "Picture put" =
      .error (.resolution (.unknownVerb "Picture" "put")) := by
    rw [Directory.read, hcommand]
    rfl
  rw [Directory.execute, hread]

theorem perform_failsUnchanged_unknown : classify "Picture put" = .execute ∧
    pictureShell.directory.execute pictureState.session.vars pictureState.world "Picture put" =
      (.error (.resolution (.unknownVerb "Picture" "put")), pictureState.world) ∧
    ((pictureShell.perform .ending "Picture put").runFrom ⟨pictureState, [], []⟩).2.state =
      pictureState ∧
    pictureShell.CallsNothing .ending ⟨pictureState, [], []⟩ "Picture put" := by
  have hline : classify "Picture put" = .execute := by rfl
  have hfails := pictureShell_execute_unknown pictureState
  have hunchanged := perform_failsUnchanged pictureShell .ending ⟨pictureState, [], []⟩ "Picture put"
  exact ⟨hline, hfails, hunchanged.ofFailure _ _ hline hfails,
    (hunchanged.ofBeforeCall _ _ hline hfails trivial).2⟩

end Shell

end OperatorConsole
