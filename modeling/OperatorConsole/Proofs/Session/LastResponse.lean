import OperatorConsole.Proofs.Session.Normalization
import OperatorConsole.Proofs.Session.Perform
import OperatorConsole.Proofs.Session.Saving
import OperatorConsole.Proofs.Session.Variables

/-!
The reserved variables after a response. Taking a response clears what they said of an earlier one,
notes the status, and then either captures a text or saves a file, never both; when saving breaks off,
they say nothing but the status. This is so whether reports are printed or end the act.
-/
namespace OperatorConsole

/-- The response is one whose body is saved. -/
structure Response.IsSavable (r : Response) (debug : Bool) : Prop where
  noText : ∃ type, r.mediaType = some type ∧ MediaType.isText type = false
  body : r.body ≠ []
  wanted : debug = true ∨ r.status < 400

namespace Session

/-- What the variables for the text and the address of the last response hold. -/
structure Holds (s : Session) (text address : String) : Prop where
  text : s.value? lastResponse = some text
  address : s.value? lastResponseUri = some address

/-- Sessions that differ at most in the reserved variables. -/
structure SameBeside (s s' : Session) : Prop where
  vars : ∀ name ∉ reserved, s'.value? name = s.value? name
  debug : s'.debug = s.debug
  downloadDir : s'.downloadDir = s.downloadDir

end Session

/-- A report was made, and no other: it is among what was printed, or it broke the act. -/
def Policy.Reported (p : Policy) (printed : List String) (reported : List Report)
    (result : Except Break Unit × Course) (r : Report) : Prop :=
  match p with
  | .printing => result.1 = .ok () ∧ result.2.reported = reported ++ [r] ∧
    ∃ lines, result.2.printed = printed ++ lines ∧ r.message ∈ lines
  | .ending => result.1 = .error (.report r) ∧ result.2.reported = reported

namespace Shell

/-- The content of a response was saved as one new file in the download directory. -/
def SavedAt (s : Session) (d d' : Disk) (content : Bytes) (address : String) : Prop :=
  ∃ base folder name, d.expandHome s.downloadDir = .ok base ∧ d'.locate base = .ok folder ∧
    d.GainsFile d' folder name content ∧ address = DiskPath.address ⟨1, folder ++ [name]⟩

/-- The reserved variables and the disk are those of one response: `s` and `d` were there before it was
taken, and `failed` says of a fault that it was reported. -/
structure Describes (s : Session) (d : Disk) (r : Response) (failed : DiskFault → Prop)
    (after : ShellState) : Prop where
  status : after.session.value? lastResponseStatus = some (toString r.status)
  ofText : r.isText = true → after.session.Holds r.text "" ∧ after.world.disk = d
  ofSavable : r.IsSavable s.debug →
    (∃ address, after.session.Holds "" address ∧ SavedAt s d after.world.disk r.body address) ∨
    (after.session.Holds "" "" ∧ d.SameFiles after.world.disk ∧ ∃ fault, failed fault)
  ofOther : r.isText = false → ¬ r.IsSavable s.debug →
    after.session.Holds "" "" ∧ after.world.disk = d
  oneOf : ∃ text address, after.session.Holds text address ∧ (text = "" ∨ address = "")
  beside : s.SameBeside after.session

variable {sh : Shell} {p : Policy} {state : ShellState} {printed : List String}
  {reported : List Report} {s : Session} {r : Response} {o : LineOutcome} {rep : Report}

/-! ### Reports -/

/-- The report on a line is made, whatever the policy. -/
theorem reported_of_report (hb : o.broken = none) (h : o.report = some rep) :
    p.Reported printed reported (o.course p printed reported) rep := by
  cases p with
  | printing =>
    rw [LineOutcome.course_printing hb, h]
    exact ⟨rfl, rfl, o.allPrinted, rfl, by simp [LineOutcome.allPrinted, h]⟩
  | ending =>
    rw [LineOutcome.course_of_report hb h]
    exact ⟨rfl, rfl⟩

/-! ### What is saved -/

theorem savedType?_eq_some_iff {type : String} : savedType? s r = some type ↔
    r.mediaType = some type ∧ MediaType.isText type = false ∧ r.body ≠ [] ∧
      (s.debug = true ∨ r.status < 400) := by
  rw [savedType?]
  cases r.mediaType with
  | none => simp
  | some found =>
    have hwanted : (r.isError && !s.debug) = false ↔ s.debug = true ∨ r.status < 400 := by
      cases s.debug <;> simp [Response.isError]
    simp only [Option.ite_none_left_eq_some, Option.some.injEq, Bool.or_eq_true, not_or,
      Bool.not_eq_true, List.isEmpty_eq_false_iff, hwanted]
    constructor
    · rintro ⟨⟨⟨hplain, hbody⟩, hw⟩, rfl⟩
      exact ⟨rfl, hplain, hbody, hw⟩
    · rintro ⟨rfl, hplain, hbody, hw⟩
      exact ⟨⟨⟨hplain, hbody⟩, hw⟩, rfl⟩

theorem isSavable_iff : r.IsSavable s.debug ↔ ∃ type, savedType? s r = some type := by
  simp only [savedType?_eq_some_iff]
  constructor
  · rintro ⟨⟨type, htype, hplain⟩, hbody, hwanted⟩
    exact ⟨type, htype, hplain, hbody, hwanted⟩
  · rintro ⟨type, htype, hplain, hbody, hwanted⟩
    exact ⟨⟨type, htype, hplain⟩, hbody, hwanted⟩

/-- A text is not saved. -/
theorem not_isSavable_of_isText {debug : Bool} (h : r.isText = true) : ¬ r.IsSavable debug := by
  rintro ⟨⟨type, htype, hplain⟩, -, -⟩
  simp [Response.isText, htype, hplain] at h

theorem savedType?_of_isText (h : r.isText = true) : savedType? s r = none := by
  by_contra hsome
  obtain ⟨type, htype⟩ := Option.ne_none_iff_exists'.1 hsome
  exact not_isSavable_of_isText h (isSavable_iff.2 ⟨type, htype⟩)

/-- Whether a response that is no text is saved is told by the body and the status, given any type. -/
theorem isSavable_iff_of_not_isText {debug : Bool} {type : String} (hplain : r.isText = false)
    (htype : r.mediaType = some type) :
    r.IsSavable debug ↔ r.body ≠ [] ∧ (debug = true ∨ r.status < 400) := by
  constructor
  · rintro ⟨-, hbody, hwanted⟩
    exact ⟨hbody, hwanted⟩
  · rintro ⟨hbody, hwanted⟩
    exact ⟨⟨type, htype, by simpa [Response.isText, htype] using hplain⟩, hbody, hwanted⟩

/-! ### The session after the status was noted -/

theorem noteStatus_value? (s : Session) (r : Response) (name : String) :
    (noteStatus s r).value? name =
      if name = lastResponseStatus then some (toString r.status)
      else if name ∈ reserved then some "" else s.value? name := by
  rw [noteStatus, Session.value?_define, Session.value?_clearLast]

/-- Only a reserved variable was given a value. -/
theorem sameBeside_define {name value : String} (h : name ∈ reserved) :
    s.SameBeside ((noteStatus s r).define name value) where
  vars other ho := by
    have hne : other ≠ name := fun e => ho (e ▸ h)
    have hstatus : other ≠ lastResponseStatus := fun e => ho (by simp [e, reserved])
    rw [Session.value?_define_of_ne _ _ _ _ hne, noteStatus_value?, if_neg hstatus, if_neg ho]
  debug := rfl
  downloadDir := rfl

theorem sameBeside_noteStatus : s.SameBeside (noteStatus s r) where
  vars other ho := by
    have hstatus : other ≠ lastResponseStatus := fun e => ho (by simp [e, reserved])
    rw [noteStatus_value?, if_neg hstatus, if_neg ho]
  debug := rfl
  downloadDir := rfl

theorem noteStatus_holds : (noteStatus s r).Holds "" "" := by
  constructor <;> rw [noteStatus_value?, if_neg (by decide), if_pos (by decide)]

/-- A text is captured, and nothing is said of an address. -/
theorem holds_define_text (text : String) :
    ((noteStatus s r).define lastResponse text).Holds text "" where
  text := Session.value?_define_self ..
  address := by
    rw [Session.value?_define_of_ne _ _ _ _ (by decide)]
    exact noteStatus_holds.address

/-- An address is kept, and nothing is said of a text. -/
theorem holds_define_address (address : String) :
    ((noteStatus s r).define lastResponseUri address).Holds "" address where
  text := by
    rw [Session.value?_define_of_ne _ _ _ _ (by decide)]
    exact noteStatus_holds.text
  address := Session.value?_define_self ..

theorem value?_status_define {name value : String} (h : lastResponseStatus ≠ name) :
    ((noteStatus s r).define name value).value? lastResponseStatus = some (toString r.status) := by
  rw [Session.value?_define_of_ne _ _ _ _ h, noteStatus_value?, if_pos rfl]

/-! ### Taking a response -/

/-- The state after content was saved, or was not. -/
def savedState (state : ShellState) (session : Session) : Disk × Except DiskFault String → ShellState
  | (disk, .error _) => ⟨session, { state.world with disk := disk }⟩
  | (disk, .ok address) => ⟨session.define lastResponseUri address, { state.world with disk := disk }⟩

/-- Of its type, only the extension and whether it is a text tell what becomes of a response. -/
theorem takeResponse_state (sh : Shell) (state : ShellState) (r : Response) :
    (sh.takeResponse state r).state =
      match (savedType? state.session r).map MediaType.extensionFor with
      | none => ⟨(noteStatus state.session r).define lastResponse (if r.isText then r.text else ""),
          state.world⟩
      | some extension => savedState state (noteStatus state.session r)
          (saveContent state.world.disk state.session.downloadDir extension r.body) := by
  have hdebug : savedType? (noteStatus state.session r) r = savedType? state.session r := rfl
  simp only [takeResponse, hdebug]
  cases savedType? state.session r with
  | none => rfl
  | some type =>
    have hdirectory : (noteStatus state.session r).downloadDir = state.session.downloadDir := rfl
    simp only [hdirectory, Option.map_some]
    generalize saveContent state.world.disk state.session.downloadDir (MediaType.extensionFor type)
      r.body = result
    obtain ⟨disk, fault | address⟩ := result <;> rfl

/-- Beside the status, a response leaves its text, or an address, or nothing. -/
theorem takeResponse_session_cases (sh : Shell) (state : ShellState) (r : Response) :
    (sh.takeResponse state r).state.session =
        (noteStatus state.session r).define lastResponse (if r.isText then r.text else "") ∨
      r.isText = false ∧ ((sh.takeResponse state r).state.session = noteStatus state.session r ∨
        ∃ address, (sh.takeResponse state r).state.session =
          (noteStatus state.session r).define lastResponseUri address) := by
  rw [takeResponse_state]
  cases hsaved : savedType? state.session r with
  | none => exact .inl rfl
  | some type =>
    have hplain : r.isText = false := Bool.eq_false_iff.2 fun htext => by
      rw [savedType?_of_isText htext] at hsaved
      cases hsaved
    simp only [Option.map_some]
    generalize saveContent state.world.disk state.session.downloadDir (MediaType.extensionFor type)
      r.body = result
    obtain ⟨disk, fault | address⟩ := result
    · exact .inr ⟨hplain, .inl rfl⟩
    · exact .inr ⟨hplain, .inr ⟨address, rfl⟩⟩

theorem takeResponse_status (sh : Shell) (state : ShellState) (r : Response) :
    (sh.takeResponse state r).state.session.value? lastResponseStatus = some (toString r.status) := by
  rcases takeResponse_session_cases sh state r with h | ⟨-, h | ⟨address, h⟩⟩ <;> rw [h]
  · exact value?_status_define (by decide)
  · rw [noteStatus_value?, if_pos rfl]
  · exact value?_status_define (by decide)

/-- Where a response is no text, nothing is said of a text. -/
theorem takeResponse_lastResponse (sh : Shell) (state : ShellState) (h : r.isText = false) :
    (sh.takeResponse state r).state.session.value? lastResponse = some "" := by
  rcases takeResponse_session_cases sh state r with hs | ⟨-, hs | ⟨address, hs⟩⟩ <;> rw [hs]
  · rw [h]
    exact (holds_define_text _).text
  · exact noteStatus_holds.text
  · exact (holds_define_address address).text

/-- A text is captured, and nothing is saved. -/
theorem takeResponse_of_isText (sh : Shell) (state : ShellState) (h : r.isText = true) :
    (sh.takeResponse state r).state =
      ⟨(noteStatus state.session r).define lastResponse r.text, state.world⟩ := by
  rw [takeResponse_state, savedType?_of_isText h, Option.map_none]
  simp only [h, if_true]

variable {d d' : Disk} {failed : DiskFault → Prop} {w : World}

/-- What is captured is the text of a response that is text, and otherwise nothing. -/
theorem describes_captured (h : ¬ r.IsSavable s.debug) :
    Describes s w.disk r failed
      ⟨(noteStatus s r).define lastResponse (if r.isText then r.text else ""), w⟩ where
  status := value?_status_define (by decide)
  ofText ht := by
    rw [if_pos ht]
    exact ⟨holds_define_text _, rfl⟩
  ofSavable hs := absurd hs h
  ofOther ht _ := by
    rw [if_neg (by simp [ht])]
    exact ⟨holds_define_text _, rfl⟩
  oneOf := ⟨_, "", holds_define_text _, .inr rfl⟩
  beside := sameBeside_define (by decide)

theorem describes_saved {address : String} (hs : r.IsSavable s.debug)
    (h : SavedAt s d w.disk r.body address) :
    Describes s d r failed ⟨(noteStatus s r).define lastResponseUri address, w⟩ where
  status := value?_status_define (by decide)
  ofText ht := absurd hs (not_isSavable_of_isText ht)
  ofSavable _ := .inl ⟨address, holds_define_address _, h⟩
  ofOther _ hn := absurd hs hn
  oneOf := ⟨"", _, holds_define_address _, .inl rfl⟩
  beside := sameBeside_define (by decide)

theorem describes_failed {fault : DiskFault} (hs : r.IsSavable s.debug) (h : d.SameFiles w.disk)
    (hfault : failed fault) : Describes s d r failed ⟨noteStatus s r, w⟩ where
  status := by rw [noteStatus_value?, if_pos rfl]
  ofText ht := absurd hs (not_isSavable_of_isText ht)
  ofSavable _ := .inr ⟨noteStatus_holds, h, fault, hfault⟩
  ofOther _ hn := absurd hs hn
  oneOf := ⟨"", "", noteStatus_holds, .inl rfl⟩
  beside := sameBeside_noteStatus

/-- The report on content that cannot be saved. -/
def savingReport (fault : DiskFault) : Report :=
  ⟨s!"Error: {fault.message}", .failure (.saving fault)⟩

theorem takeResponse_describes (sh : Shell) (state : ShellState) (r : Response)
    (hnew : (state.world.disk.prepared state.session.downloadDir).DrawsNew) :
    Describes state.session state.world.disk r
      (fun fault => (sh.takeResponse state r).report = some (savingReport fault))
      (sh.takeResponse state r).state := by
  have hdebug : (noteStatus state.session r).debug = state.session.debug := rfl
  have hsavable := isSavable_iff (s := noteStatus state.session r) (r := r)
  rw [hdebug] at hsavable
  cases htype : savedType? (noteStatus state.session r) r with
  | none =>
    simp only [takeResponse, htype]
    exact describes_captured fun hs => by simpa [htype] using hsavable.1 hs
  | some type =>
    have hs := hsavable.2 ⟨type, htype⟩
    simp only [takeResponse, htype]
    cases hsave : saveContent state.world.disk (noteStatus state.session r).downloadDir
      (MediaType.extensionFor type) r.body with
    | mk disk saved =>
      cases saved with
      | error fault => exact describes_failed hs (saveContent_error hsave) rfl
      | ok address =>
        obtain ⟨base, place, hsaves, rfl⟩ := saveContent_ok hsave
        obtain ⟨folder, name, hfolder, rfl, hgains⟩ := hsaves.gainsFile hnew
        exact describes_saved hs ⟨base, folder, name, hsaves.expanded, hfolder, hgains, rfl⟩

/-! ### Lines -/

/-- A line that gives a response comes to the state after that response is taken. -/
theorem handle_of_response {line : String} (hline : classify line = .execute)
    (hr : sh.directory.execute state.session.vars state.world line = (.ok r, w)) :
    sh.handle state line = sh.takeResponse ⟨state.session, w⟩ r := by
  rw [handle, hline]
  simp only [executeLine, hr]

theorem perform_execute_state {line : String} (hline : classify line = .execute)
    (hr : sh.directory.execute state.session.vars state.world line = (.ok r, w)) :
    ((sh.perform p line).runFrom ⟨state, printed, reported⟩).2.state =
      (sh.takeResponse ⟨state.session, w⟩ r).state := by
  rw [perform_state, handle_of_response hline hr]

/-- Whatever was said of earlier responses, after a line that gave a response the reserved variables
describe that response and no other, and all else in the session is as it was: a text is captured, a
body that is to be saved is one new file or the fault is reported, and otherwise there is nothing. -/
theorem perform_describes_response (sh : Shell) (p : Policy) (state : ShellState)
    (printed : List String) (reported : List Report) (line : String) (r : Response) (w : World)
    (hline : classify line = .execute)
    (hr : sh.directory.execute state.session.vars state.world line = (.ok r, w))
    (hnew : (w.disk.prepared state.session.downloadDir).DrawsNew) :
    Describes state.session w.disk r
      (fun fault => p.Reported printed reported
        ((sh.perform p line).runFrom ⟨state, printed, reported⟩) (savingReport fault))
      ((sh.perform p line).runFrom ⟨state, printed, reported⟩).2.state := by
  have hdescribes := takeResponse_describes sh ⟨state.session, w⟩ r hnew
  rw [perform_execute_state hline hr, perform_course, handle_of_response hline hr]
  refine { hdescribes with ofSavable := fun hs => (hdescribes.ofSavable hs).imp_right ?_ }
  exact fun ⟨hholds, hfiles, fault, hreport⟩ => ⟨hholds, hfiles, fault,
    reported_of_report (takeResponse_broken sh _ r) hreport⟩

/-- A picture as a response. -/
def pictureResponse : Response := ⟨200, [("Content-Type", ["image/png"])], [0x89, 0x50]⟩

/-- A shell with one operation, which answers with a picture. -/
def pictureShell : Shell :=
  ⟨⟨[⟨"PictureClient", .plain "PictureClient",
    [⟨"get", [], fun _ _ w => (.response pictureResponse, w)⟩]⟩]⟩, none⟩

/-- A session that knows of an earlier response, over a disk that is empty. -/
def pictureState : ShellState :=
  ⟨⟨[(lastResponse, "earlier")], false, ⟨1, ["pictures"]⟩⟩, .bare⟩

/-- The disk of `pictureState` once the download directory is made. -/
def pictureDisk : Disk := ⟨[(["pictures"], .directory)], [], "/", [], 0⟩

theorem pictureState_made :
    pictureState.world.disk.makeDirectories ⟨1, ["pictures"]⟩ = (pictureDisk, none) :=
  Disk.makeDirectories_of_makeDirectory (Disk.makeDirectory_eq_ok_iff.2 ⟨["pictures"],
    Disk.locate_eq_ok_iff.2 ⟨by decide +kernel, by decide +kernel, by rfl⟩, rfl, rfl⟩)

theorem pictureShell_execute (state : ShellState) :
    pictureShell.directory.execute state.session.vars state.world "Picture get" =
      (.ok pictureResponse, state.world) := by
  have hread : Command.read "Picture get" = .ok ⟨"Picture", "get", []⟩ := by decide +kernel
  have hsent : ∀ w : World, w.withSent [] = w := fun w => by
    simp [World.withSent]
  rw [Directory.execute, Directory.read, hread]
  exact congrArg (Except.ok pictureResponse, ·) (hsent state.world)

theorem perform_describes_picture : classify "Picture get" = .execute ∧
    pictureShell.directory.execute pictureState.session.vars pictureState.world "Picture get" =
      (.ok pictureResponse, pictureState.world) ∧
    (pictureState.world.disk.prepared pictureState.session.downloadDir).DrawsNew ∧
    Describes pictureState.session pictureState.world.disk pictureResponse
      (fun fault => Policy.Reported .ending [] []
        ((pictureShell.perform .ending "Picture get").runFrom ⟨pictureState, [], []⟩)
        (savingReport fault))
      ((pictureShell.perform .ending "Picture get").runFrom ⟨pictureState, [], []⟩).2.state := by
  have hline : classify "Picture get" = .execute := by rfl
  have hr := pictureShell_execute pictureState
  have hnew : (pictureState.world.disk.prepared pictureState.session.downloadDir).DrawsNew := by
    have hprepared : pictureState.world.disk.prepared pictureState.session.downloadDir =
        pictureDisk := congrArg Prod.fst pictureState_made
    rw [hprepared, Disk.DrawsNew]
    decide +kernel
  exact ⟨hline, hr, hnew, perform_describes_response _ _ _ _ _ _ _ _ hline hr hnew⟩

/-- A shell whose only operation gives a response. -/
def givingShell (r : Response) : Shell := ⟨oneDirectory (.response r), none⟩

theorem givingShell_execute (r : Response) (state : ShellState) :
    (givingShell r).directory.execute state.session.vars state.world "Thing fail" =
      (.ok r, state.world) :=
  oneDirectory_execute r ..

theorem givingShell_state (p : Policy) (r : Response) (state : ShellState) (printed : List String)
    (reported : List Report) :
    (((givingShell r).perform p "Thing fail").runFrom ⟨state, printed, reported⟩).2.state =
      ((givingShell r).takeResponse state r).state :=
  perform_execute_state rfl (givingShell_execute r state)

end Shell

end OperatorConsole
