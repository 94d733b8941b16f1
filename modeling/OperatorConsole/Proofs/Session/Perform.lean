import OperatorConsole.Proofs.Argument.Value
import OperatorConsole.Session.Act

/-!
Acts seen at once. An act that a line asks for makes all its changes before the one report that it may
make, so what comes of the line is one outcome: with reports printed the act comes to all of it, and to
the part up to the report when a report breaks the act. A failure without a text breaks it either way.
-/
namespace OperatorConsole

/-! ### Steps -/

namespace Act

@[simp]
theorem runFrom_bind (act : Act α) (next : α → Act β) (c : Course) :
    (act >>= next).runFrom c =
      match act.runFrom c with
      | (.ok a, d) => (next a).runFrom d
      | (.error b, d) => (.error b, d) := by
  unfold runFrom
  rw [ExceptT.run_bind, StateT.run_bind]
  generalize act.run.run c = result
  obtain ⟨a | b, d⟩ := result <;> rfl

@[simp]
theorem runFrom_pure (a : α) (c : Course) : (pure a : Act α).runFrom c = (.ok a, c) := rfl

@[simp]
theorem runFrom_throw (b : Break) (c : Course) :
    (throw b : Act α).runFrom c = (.error b, c) := rfl

@[simp]
theorem runFrom_print (lines : List String) (c : Course) :
    (print lines).runFrom c = (.ok (), ⟨c.state, c.printed ++ lines, c.reported⟩) := rfl

@[simp]
theorem runFrom_session (c : Course) : session.runFrom c = (.ok c.state.session, c) := rfl

@[simp]
theorem runFrom_alter (f : Session → Session) (c : Course) : (alter f).runFrom c =
    (.ok (), ⟨⟨f c.state.session, c.state.world⟩, c.printed, c.reported⟩) := rfl

@[simp]
theorem runFrom_modifyGet (f : Course → α × Course) (c : Course) :
    (modifyGet f : Act α).runFrom c = (.ok (f c).1, (f c).2) := rfl

@[simp]
theorem runFrom_tryCatch (act : Act α) (handler : Break → Act α) (c : Course) :
    (tryCatch act handler).runFrom c =
      match act.runFrom c with
      | (.ok a, d) => (.ok a, d)
      | (.error b, d) => (handler b).runFrom d := by
  unfold runFrom ExceptT.run StateT.run
  simp only [tryCatch, tryCatchThe, MonadExceptOf.tryCatch, ExceptT.tryCatch, ExceptT.mk, bind,
    StateT.bind]
  cases act c with
  | mk result d => cases result <;> rfl

@[simp]
theorem runFrom_report_printing (r : Report) (c : Course) : (report .printing r).runFrom c =
    (.ok (), ⟨c.state, c.printed ++ [r.message], c.reported ++ [r]⟩) := rfl

@[simp]
theorem runFrom_report_ending (r : Report) (c : Course) :
    (report .ending r).runFrom c = (.error (.report r), c) := rfl

end Act

/-! ### Outcomes -/

/-- What comes of a line: what is printed before the report, the report, what is printed after it if the
act goes on, and what is raised in place of a text that cannot be had. -/
structure LineOutcome where
  state : ShellState
  printed : List String
  report : Option Report
  after : List String
  broken : Option Told

namespace LineOutcome

/-- A line that only prints. -/
def printing (state : ShellState) (printed : List String) : LineOutcome :=
  ⟨state, printed, none, [], none⟩

/-- Everything that a line prints when reports are printed. -/
def allPrinted (o : LineOutcome) : List String :=
  o.printed ++ (o.report.map (·.message)).toList ++ o.after

/-- The course of an outcome: all of it, or up to what breaks the act. -/
def course (o : LineOutcome) (p : Policy) (printed : List String) (reported : List Report) :
    Except Break Unit × Course :=
  match o.broken, p, o.report with
  | some t, _, _ => (.error (.ofTold t), ⟨o.state, printed ++ o.printed, reported⟩)
  | none, .ending, some r => (.error (.report r), ⟨o.state, printed ++ o.printed, reported⟩)
  | none, _, _ => (.ok (), ⟨o.state, printed ++ o.allPrinted, reported ++ o.report.toList⟩)

section

variable {o : LineOutcome} {p : Policy} {printed : List String} {reported : List Report} {r : Report}
  {t : Told}

theorem course_of_broken (h : o.broken = some t) : o.course p printed reported =
    (.error (.ofTold t), ⟨o.state, printed ++ o.printed, reported⟩) := by
  simp [course, h]

theorem course_printing (h : o.broken = none) : o.course .printing printed reported =
    (.ok (), ⟨o.state, printed ++ o.allPrinted, reported ++ o.report.toList⟩) := by
  simp [course, h]

theorem course_of_report (h : o.broken = none) (hr : o.report = some r) :
    o.course .ending printed reported =
      (.error (.report r), ⟨o.state, printed ++ o.printed, reported⟩) := by
  simp [course, h, hr]

theorem course_of_quiet (h : o.broken = none) (hr : o.report = none) : o.course p printed reported =
    (.ok (), ⟨o.state, printed ++ o.allPrinted, reported⟩) := by
  cases p <;> simp [course, h, hr]

/-- No act takes its changes back. -/
@[simp]
theorem course_state (o : LineOutcome) (p : Policy) (printed : List String)
    (reported : List Report) : (o.course p printed reported).2.state = o.state := by
  cases hb : o.broken <;> cases p <;> cases hr : o.report <;> simp [course, hb, hr]

theorem course_append (o : LineOutcome) (p : Policy) (printed : List String)
    (reported : List Report) (lines : List String) :
    course { o with printed := lines ++ o.printed } p printed reported =
      o.course p (printed ++ lines) reported := by
  cases hb : o.broken <;> cases p <;> cases hr : o.report <;> simp [course, allPrinted, hb, hr]

theorem course_lines (state : ShellState) (lines : List String) (p : Policy)
    (printed : List String) (reported : List Report) :
    (printing state lines).course p printed reported =
      (.ok (), ⟨state, printed ++ lines, reported⟩) := by
  rw [course_of_quiet rfl rfl]
  simp [printing, allPrinted]

end

end LineOutcome

/-- What a line that reads or changes the session does: the new session, what is printed, and what
is reported. -/
structure Change where
  session : Session
  printed : List String
  report : Option String

/-- What comes of a change. -/
def Change.outcome (c : Change) (w : World) : LineOutcome :=
  ⟨⟨c.session, w⟩, c.printed, c.report.map fun message => ⟨message, .none⟩, [""], none⟩

namespace Shell

/-! ### Reading and changing the session at once -/

/-- Reads or sets whether responses are shown in detail. -/
def changeDebug (s : Session) (isSet : Bool) (arguments : List Argument) : Change :=
  match isSet, arguments with
  | false, [] => ⟨s, [debugLine s], none⟩
  | true, [a] =>
    if a.name == "" && (a.value == "on" || a.value == "off") then
      let s := { s with debug := a.value == "on" }
      ⟨s, [debugLine s], none⟩
    else ⟨s, [debugLine s], some unknownChange⟩
  | _, _ => ⟨s, [debugLine s], some unknownChange⟩

/-- Reads or sets where content is saved. -/
def changeDownloadDir (s : Session) (isSet : Bool) (arguments : List Argument) : Change :=
  match isSet, arguments with
  | false, [] => ⟨s, [downloadDirLine s], none⟩
  | true, [a] =>
    if a.name == "" then
      let s := { s with downloadDir := DiskPath.ofString a.value }
      ⟨s, [downloadDirLine s], none⟩
    else ⟨s, [downloadDirLine s], some unknownChange⟩
  | _, _ => ⟨s, [downloadDirLine s], some unknownChange⟩

/-- Reads a variable. -/
def readVariable (sh : Shell) (s : Session) (a : Argument) : Change :=
  if a.name != "" then ⟨s, [], some unknownChange⟩
  else match s.vars.lookup a.value with
    | some value => ⟨s, [s!"var: ${a.value} = {sh.shorten value}"], none⟩
    | none => ⟨s, [], some (undefinedVariable a.value)⟩

/-- Defines a variable. -/
def defineVariable (sh : Shell) (s : Session) (name value : String) : Change :=
  ⟨s.define name value, [s!"var ${name} = {sh.shorten value}"], none⟩

/-- Defines a variable by the text or the variable that is given, or undefines one. -/
def writeVariable (sh : Shell) (s : Session) (a : Argument) : Change :=
  if a.name == "" then
    if s.vars.has a.value then
      ⟨{ s with vars := s.vars.unset a.value }, [], none⟩
    else ⟨s, [], some (undefinedVariable a.value)⟩
  else match a.form with
    | .plain | .document => sh.defineVariable s a.name a.value
    | .reference =>
      match s.vars.lookup a.value with
      | some value => sh.defineVariable s a.name value
      | none => ⟨s, [], some (undefinedVariable a.value)⟩

/-- Reads, defines or undefines a variable. -/
def changeVariable (sh : Shell) (s : Session) (isSet : Bool) : List Argument → Change
  | [a] => if isSet then sh.writeVariable s a else sh.readVariable s a
  | _ => ⟨s, [], some unknownChange⟩

/-- What a command that reads or changes the session does. -/
def change (sh : Shell) (s : Session) (isSet : Bool) (c : Command) : Change :=
  match c.verb with
  | "debug" => changeDebug s isSet c.arguments
  | "downloaddir" => changeDownloadDir s isSet c.arguments
  | "var" => sh.changeVariable s isSet c.arguments
  | _ => ⟨s, [], some unknownChange⟩

/-! ### Responses at once -/

/-- Takes a response that is not saved: its text is captured and shown. -/
def captureText (sh : Shell) (state : ShellState) (r : Response) (printed : List String) : LineOutcome :=
  let text := if r.isText then r.text else ""
  let shown := if (Text.strip text.toList).isEmpty then [] else [sh.shorten text]
  ⟨{ state with session := state.session.define lastResponse text }, printed ++ shown,
    statusReport? r, [""], none⟩

/-- Takes a response: it is captured in the reserved variables, shown, and saved if it is no text. -/
def takeResponse (sh : Shell) (state : ShellState) (r : Response) : LineOutcome :=
  let session := noteStatus state.session r
  let printed := if session.debug then detailLines r else []
  match savedType? session r with
  | none => sh.captureText ⟨session, state.world⟩ r printed
  | some type =>
    let (disk, saved) :=
      saveContent state.world.disk session.downloadDir (MediaType.extensionFor type) r.body
    let world := { state.world with disk := disk }
    match saved with
    | .error fault =>
      ⟨⟨session, world⟩, printed, some (failureReport (.saving fault)), [""], none⟩
    | .ok address =>
      ⟨⟨session.define lastResponseUri address, world⟩, printed ++ [s!"Response saved as '{address}'"],
        statusReport? r, [""], none⟩

/-! ### Lines at once -/

/-- A line that gives no response: its failure is reported, or breaks the act if it has no text. -/
def failureOutcome (state : ShellState) (f : Failure) : LineOutcome :=
  match f.text with
  | .ok _ => ⟨state, [], some (failureReport f), [""], none⟩
  | .error t => ⟨state, [], none, [], some t⟩

/-- Executes a line and takes its response. -/
def executeLine (sh : Shell) (state : ShellState) (line : String) : LineOutcome :=
  match sh.directory.execute state.session.vars state.world line with
  | (.error f, world) => failureOutcome { state with world := world } f
  | (.ok r, world) => sh.takeResponse { state with world := world } r

/-- What comes of a line. -/
def handle (sh : Shell) (state : ShellState) (line : String) : LineOutcome :=
  match classify line with
  | .nothing => .printing state []
  | .listing => .printing state ("Vars:" :: state.session.vars.map fun (name, _) => s!"  ${name}")
  | .help service => .printing state (sh.helpLines service)
  | .change isSet c => (sh.change state.session isSet c).outcome state.world
  | .execute => sh.executeLine state line

/-! ### Acts and their outcomes -/

open Act LineOutcome

section

variable (sh : Shell) (p : Policy) (c : Course)

/-- A command that is not known is reported, and nothing else is done. -/
theorem settle_course (known : Bool) : (settle p known).runFrom c =
    (Change.outcome ⟨c.state.session, [], if known then none else some unknownChange⟩
      c.state.world).course p c.printed c.reported := by
  cases known <;> cases p <;> simp [settle, Change.outcome, course, allPrinted]

/-- What is printed before a command is settled is printed by the change. -/
theorem settle_printed (state : ShellState) (known : Bool) (lines : List String) :
    (settle p known).runFrom ⟨state, c.printed ++ lines, c.reported⟩ =
      (Change.outcome ⟨state.session, lines, if known then none else some unknownChange⟩
        state.world).course p c.printed c.reported := by
  rw [settle_course, ← course_append]
  simp [Change.outcome]

theorem performDebug_course (isSet : Bool) (arguments : List Argument) :
    (performDebug isSet arguments >>= settle p).runFrom c =
      ((changeDebug c.state.session isSet arguments).outcome c.state.world).course p
        c.printed c.reported := by
  match isSet, arguments with
  | false, [] => simp [performDebug, changeDebug, settle_printed]
  | false, _ :: _ => simp [performDebug, changeDebug, settle_printed]
  | true, [] => simp [performDebug, changeDebug, settle_printed]
  | true, [a] =>
    by_cases h : (a.name == "" && (a.value == "on" || a.value == "off")) = true
    · simp only [performDebug, changeDebug, h]
      simp [settle_printed]
    · simp [performDebug, changeDebug, h, settle_printed]
  | true, _ :: _ :: _ => simp [performDebug, changeDebug, settle_printed]

theorem performDownloadDir_course (isSet : Bool) (arguments : List Argument) :
    (performDownloadDir isSet arguments >>= settle p).runFrom c =
      ((changeDownloadDir c.state.session isSet arguments).outcome c.state.world).course p
        c.printed c.reported := by
  match isSet, arguments with
  | false, [] => simp [performDownloadDir, changeDownloadDir, settle_printed]
  | false, _ :: _ => simp [performDownloadDir, changeDownloadDir, settle_printed]
  | true, [] => simp [performDownloadDir, changeDownloadDir, settle_printed]
  | true, [a] =>
    by_cases h : (a.name == "") = true
    · simp only [performDownloadDir, changeDownloadDir, h]
      simp [settle_printed]
    · simp only [performDownloadDir, changeDownloadDir, h]
      simp [settle_printed]
  | true, _ :: _ :: _ => simp [performDownloadDir, changeDownloadDir, settle_printed]

theorem reportUndefined_course (name : String) :
    (reportUndefined p name >>= settle p).runFrom c =
      (Change.outcome ⟨c.state.session, [], some (undefinedVariable name)⟩ c.state.world).course p
        c.printed c.reported := by
  cases p <;> simp [reportUndefined, settle, Change.outcome, course, allPrinted]

theorem performRead_course (a : Argument) :
    (sh.performRead p a >>= settle p).runFrom c =
      ((sh.readVariable c.state.session a).outcome c.state.world).course p c.printed c.reported := by
  by_cases h : (a.name != "") = true
  · simp only [performRead, readVariable, h]
    simp [settle_course]
  · simp only [performRead, readVariable, h]
    cases hv : c.state.session.vars.lookup a.value with
    | some value => simp [settle_printed, hv]
    | none => simpa [hv] using reportUndefined_course p c a.value

theorem performDefine_course (name value : String) :
    (sh.performDefine name value >>= settle p).runFrom c =
      ((sh.defineVariable c.state.session name value).outcome c.state.world).course p c.printed
        c.reported := by
  simp [performDefine, defineVariable, settle_printed]

theorem performWrite_course (a : Argument) :
    (sh.performWrite p a >>= settle p).runFrom c =
      ((sh.writeVariable c.state.session a).outcome c.state.world).course p c.printed c.reported := by
  have hdefine := performDefine_course sh p c a.name
  have hundefined := reportUndefined_course p c a.value
  rw [runFrom_bind] at hundefined
  simp only [runFrom_bind] at hdefine
  unfold performWrite writeVariable
  by_cases hname : (a.name == "") = true
  · by_cases hvar : c.state.session.vars.has a.value = true
    · simp [hname, hvar, settle_course]
    · simp [hname, hvar, hundefined]
  · cases hform : a.form with
    | plain => simp [hname, hdefine]
    | document => simp [hname, hdefine]
    | reference =>
      cases hv : c.state.session.vars.lookup a.value with
      | some value => simp [hname, hv, hdefine]
      | none => simp [hname, hv, hundefined]

theorem performVariable_course (isSet : Bool) (arguments : List Argument) :
    (sh.performVariable p isSet arguments >>= settle p).runFrom c =
      ((sh.changeVariable c.state.session isSet arguments).outcome c.state.world).course p
        c.printed c.reported := by
  match isSet, arguments with
  | _, [] => simp [performVariable, changeVariable, settle_course]
  | true, [a] => exact performWrite_course sh p c a
  | false, [a] => exact performRead_course sh p c a
  | _, _ :: _ :: _ => simp [performVariable, changeVariable, settle_course]

theorem performChange_course (isSet : Bool) (command : Command) :
    (sh.performChange p isSet command).runFrom c =
      ((sh.change c.state.session isSet command).outcome c.state.world).course p c.printed c.reported := by
  unfold performChange performKnown change
  split
  · next h => simpa only [h] using performDebug_course p c isSet command.arguments
  · next h => simpa only [h] using performDownloadDir_course p c isSet command.arguments
  · next h => simpa only [h] using performVariable_course sh p c isSet command.arguments
  · simp [settle_course]

theorem runFrom_performDetail (r : Response) : (performDetail r).runFrom c = (.ok (), ⟨c.state,
    c.printed ++ if c.state.session.debug then detailLines r else [], c.reported⟩) := by
  cases h : c.state.session.debug <;> simp [performDetail, h]

theorem runFrom_performCapture (r : Response) :
    (sh.performCapture r).runFrom c = (.ok (), ⟨(sh.captureText c.state r []).state,
      c.printed ++ (sh.captureText c.state r []).printed, c.reported⟩) := by
  simp [performCapture, captureText]

/-- A failure that breaks an act is reported if it has a text, and then an empty line ends the line. -/
theorem reportBreak_course (f : Failure) :
    (reportBreak p (.failure f) >>= fun _ => print [""]).runFrom c =
      (failureOutcome c.state f).course p c.printed c.reported := by
  cases htext : f.text with
  | error t => simp [reportBreak, failureOutcome, htext, course]
  | ok message => cases p <;> simp [reportBreak, failureOutcome, htext, course, allPrinted]

/-- A status is reported once, also when its report breaks the act. -/
theorem reportStatus_course (r : Response) :
    (tryCatch (reportStatus p r) (reportBreak p) >>= fun _ => print [""]).runFrom c =
      LineOutcome.course ⟨c.state, [], statusReport? r, [""], none⟩ p c.printed c.reported := by
  cases hr : statusReport? r <;> cases p <;>
    simp [reportStatus, hr, reportBreak, course, allPrinted]

@[simp]
theorem failureOutcome_state (state : ShellState) (f : Failure) :
    (failureOutcome state f).state = state := by
  rw [failureOutcome]
  cases f.text <;> rfl

theorem failureOutcome_saving (state : ShellState) (fault : DiskFault) :
    failureOutcome state (.saving fault) =
      ⟨state, [], some (failureReport (.saving fault)), [""], none⟩ := rfl

theorem performResponse_course (r : Response) :
    (tryCatch (sh.performResponse p r) (reportBreak p) >>= fun _ => print [""]).runFrom c =
      (sh.takeResponse c.state r).course p c.printed c.reported := by
  have hstatus := fun c => reportStatus_course p c r
  have hbreak := fun c fault => reportBreak_course p c (.saving fault)
  simp only [runFrom_bind, runFrom_tryCatch, runFrom_print] at hstatus hbreak
  simp only [performResponse, takeResponse, runFrom_bind, runFrom_tryCatch, runFrom_alter,
    runFrom_performDetail, performSave, runFrom_session]
  cases hsaved : savedType? (noteStatus c.state.session r) r with
  | none =>
    simp only [runFrom_pure, Bool.false_eq_true, if_false, runFrom_bind, runFrom_performCapture,
      runFrom_print]
    rw [hstatus, List.append_assoc, ← course_append]
    simp [captureText]
  | some type =>
    simp only [performWriteFile, runFrom_bind, runFrom_modifyGet]
    generalize saveContent c.state.world.disk _ _ r.body = saved
    obtain ⟨disk, fault | address⟩ := saved
    · simp only [runFrom_throw, runFrom_print]
      rw [hbreak, failureOutcome_saving, ← course_append, List.append_nil]
    · simp only [runFrom_bind, runFrom_print, runFrom_alter, runFrom_pure, if_true]
      rw [hstatus, List.append_assoc, ← course_append, List.append_nil]

theorem performExecute_course (line : String) :
    (sh.performExecute p line).runFrom c = (sh.executeLine c.state line).course p c.printed c.reported := by
  unfold performExecute executeLine
  generalize hcall : sh.directory.execute c.state.session.vars c.state.world line = answer
  obtain ⟨f | r, world⟩ := answer
  · have hbreak := reportBreak_course p ⟨⟨c.state.session, world⟩, c.printed, c.reported⟩ f
    simpa [performCall, hcall] using hbreak
  · have hresponse := performResponse_course sh p ⟨⟨c.state.session, world⟩, c.printed, c.reported⟩ r
    simpa [performCall, hcall] using hresponse

/-- A line that is carried out comes to its outcome: all of it when reports are printed, and what is
before the report when a report breaks the act. -/
theorem perform_course (line : String) :
    (sh.perform p line).runFrom c = (sh.handle c.state line).course p c.printed c.reported := by
  unfold perform handle
  cases classify line with
  | nothing => simp [course_lines]
  | listing => simp [course_lines]
  | help service => simp [course_lines]
  | change isSet command => exact performChange_course sh p c isSet command
  | execute => exact performExecute_course sh p c line

/-- Nothing that is raised while a response is taken is without a text. -/
theorem takeResponse_broken (state : ShellState) (r : Response) :
    (sh.takeResponse state r).broken = none := by
  simp only [takeResponse]
  cases savedType? (noteStatus state.session r) r with
  | none => rfl
  | some type =>
    simp only
    generalize saveContent state.world.disk _ (MediaType.extensionFor type) r.body = result
    obtain ⟨disk, fault | address⟩ := result <;> rfl

/-- The state after a line does not depend on how reports are taken. -/
theorem perform_state (line : String) :
    ((sh.perform p line).runFrom c).2.state = (sh.handle c.state line).state := by
  rw [perform_course, course_state]

end

end Shell

/-- The sample state: a session that starts over a disk with a download directory. -/
def ShellState.sample (d : Disk) (directory : DiskPath) : ShellState :=
  ⟨Session.start directory, .on d⟩

end OperatorConsole
