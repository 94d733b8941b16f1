import OperatorConsole.Proofs.Argument.Source
import OperatorConsole.Proofs.Builtin.Answers
import OperatorConsole.Proofs.Session.ReadBack
import OperatorConsole.Proofs.Text.Base64

/-!
Content through the console as base64. The content of a file is captured as a text in base64, and from that
text the next line reads the same content. It is saved where the download directory allows it, and else the
fault is reported.
-/
namespace OperatorConsole

open Builtin

variable {sh : Shell} {p q : Policy} {state : ShellState} {printed : List String}
  {reported : List Report} {line : String} {s : Scope} {content : Bytes} {locator : String} {r : Response}
  {after : ShellState}

/-! ### Content of files -/

/-- Behind a locator that leads to content there is a name. -/
theorem exists_fileName (h : s.world.contentOf locator = .ok content) :
    ∃ name, Locator.fileName locator = .ok name := by
  cases hsplit : Locator.split locator with
  | ok parts =>
    rw [Locator.fileName, hsplit]
    exact ⟨_, rfl⟩
  | error fault =>
    rw [World.contentOf, Locator.localPath, hsplit] at h
    cases h

/-- A locator leads to the content of the file that it names. -/
theorem contentOf_of_holdsAt {w : World} (h : w.HoldsAt content locator) :
    w.contentOf locator = .ok content := by
  obtain ⟨path, hpath, hread⟩ := h
  rw [World.contentOf, hpath, mapError_ok, ok_bind]
  dsimp only
  rw [hread, mapError_ok]

theorem fileOf_of_contentOf (h : s.world.contentOf locator = .ok content) :
    ∃ name, s.fileOf .content locator = .ok (.file "FilePayload" content (some name)) := by
  obtain ⟨name, hname⟩ := exists_fileName h
  refine ⟨name, ?_⟩
  rw [Scope.fileOf, h, hname]
  rfl

/-! ### Taking a response that is content -/

/-- A response that is content of no known type. -/
def contentResponse (content : Bytes) : Response :=
  ⟨200, [("Content-Type", ["application/octet-stream"])], content⟩

namespace Shell

/-- Nothing is saved where the download directory is a file. -/
theorem not_saves_of_file {d d' : Disk} {directory base other : DiskPath} {extension : String}
    {bytes : Bytes} {place : List String} (hbase : d.expandHome directory = .ok base)
    (hfile : d.find base = .ok (.file bytes)) :
    ¬ Saves d directory extension content d' other place := by
  intro h
  obtain rfl := Except.ok.inj (hbase.symm.trans h.expanded)
  have hgrown := Disk.makeDirectories_grown d base
  obtain ⟨names, hnames, hentry⟩ := Disk.find_eq_ok_iff.1 hfile
  obtain ⟨names', hnames', hentry'⟩ := Disk.find_eq_ok_iff.1 (Disk.makeDirectories_find h.made)
  obtain rfl := Except.ok.inj ((hgrown.locate hnames).symm.trans hnames')
  rw [hgrown.file_iff.2 hentry] at hentry'
  cases hentry'

theorem savedType?_contentResponse (session : Session) (hne : content ≠ []) :
    savedType? session (contentResponse content) = some "application/octet-stream" := by
  have htype : (contentResponse content).mediaType = some "application/octet-stream" := by
    have hempty : (contentResponse content).mediaType = (contentResponse []).mediaType :=
      Response.mediaType_congr rfl
    rw [hempty]
    decide +kernel
  have hstatus : (contentResponse content).status < 400 := show 200 < 400 by decide
  exact savedType?_eq_some_iff.2 ⟨htype, by decide +kernel, hne, .inr hstatus⟩

end Shell

namespace Builtin.Utility

/-! ### The operations -/

/-- A text in base64 is answered with the content that was written. -/
theorem decodeBase64_encode (content : Bytes) :
    decodeBase64 [.text (String.ofList (Base64.encode content))] = .ok (contentResponse content) := by
  have hascii : (Base64.encode content).all isAscii = true := by
    rw [List.all_eq_true]
    intro c hc
    simpa [isAscii] using Base64.ascii_of_mem_encode hc
  simp only [decodeBase64, List.map_cons, List.map_nil, textOf, decodeText, String.toList_ofList,
    Base64.decode_encode, hascii]
  rfl

/-- A text in base64 has no byte-order mark at its start. -/
theorem unmarked_encode (content : Bytes) :
    unmarked (String.ofList (Base64.encode content)) = String.ofList (Base64.encode content) := by
  refine unmarked_of_head fun hmark => ?_
  rw [String.toList_ofList] at hmark
  exact absurd (Base64.ascii_of_mem_encode (List.mem_of_head? hmark)) (by decide)

/-! ### Lines -/

/-- The line writes content in base64: its argument is a locator that leads to the content. -/
def Encodes (s : Scope) (line : String) (content : Bytes) : Prop :=
  ∃ a locator, Calls line encoding [a] ∧ s.Refers a locator ∧ s.world.contentOf locator = .ok content

/-- The line reads base64 from the text of the last response. -/
def DecodesLast (line : String) : Prop :=
  ∃ name, Calls line decoding [⟨.reference, name, lastResponse⟩]

/-- After content was written in base64 the text is captured, and the disk and the download directory are
as they were. -/
theorem Encodes.captured (h : Encodes ⟨state.session.vars, state.world⟩ line content)
    (hsh : sh.HasUtility)
    (hafter : ((sh.perform p line).runFrom ⟨state, printed, reported⟩).2.state = after) :
    after.session.vars.lookup lastResponse = some (String.ofList (Base64.encode content)) ∧
      after.world.disk = state.world.disk ∧ after.session.downloadDir = state.session.downloadDir := by
  obtain ⟨a, locator, hcalls, hrefers, hcontent⟩ := h
  obtain ⟨name, hfile⟩ := fileOf_of_contentOf (s := ⟨state.session.vars, state.world⟩) hcontent
  have hvalue := Scope.valueOf_file (p := .ofType "file" .content .required) rfl hrefers.text
  rw [if_neg hrefers.form] at hvalue
  replace hvalue := hvalue.trans hfile
  obtain ⟨requests, hr⟩ := execute_encoding hcalls hsh hvalue
  rw [Shell.perform_execute_state hcalls.classify hr,
    Shell.takeResponse_of_carries (carries_plain _ 200), unmarked_encode] at hafter
  subst hafter
  exact ⟨(Shell.holds_define_text _).text, rfl, rfl⟩

/-- From the captured text the content is read. -/
theorem DecodesLast.execute (h : DecodesLast line) (hsh : sh.HasUtility)
    (hlast : s.vars.lookup lastResponse = some (String.ofList (Base64.encode content))) :
    sh.directory.execute s.vars s.world line = (.ok (contentResponse content), s.world) := by
  obtain ⟨name, hcalls⟩ := h
  rw [execute_decoding hcalls hsh (Scope.textOf_of_lookup rfl hlast), decodeBase64_encode]
  rfl

/-- Content arrived: it is the body of the response, and if there is any, it was saved and its address is
known, or it could not be saved and the fault was reported. `failed` says of a fault that it was
reported. -/
structure Arrives (disk : Disk) (directory : DiskPath) (content : Bytes)
    (answer : Except Failure Response) (after : ShellState) (failed : DiskFault → Prop) : Prop where
  answer : answer = .ok (contentResponse content)
  saved : content ≠ [] → ∀ d' base place, Shell.Saves disk directory "bin" content d' base place →
    after.session.value? lastResponseUri = some (DiskPath.address ⟨1, place⟩) ∧
      after.world.disk.entry? place = some (.file content)
  unsaved : content ≠ [] → (¬ ∃ d' base place, Shell.Saves disk directory "bin" content d' base place) →
    after.session.value? lastResponseUri = some "" ∧ ∃ fault, failed fault

theorem extensionFor_octets : MediaType.extensionFor "application/octet-stream" = "bin" := by
  decide +kernel

/-- A line that answers with content leaves it behind. -/
theorem arrives_of_execute (p : Policy) (printed : List String) (reported : List Report)
    (hline : Shell.classify line = .execute)
    (hr : sh.directory.execute state.session.vars state.world line =
      (.ok (contentResponse content), state.world)) :
    Arrives state.world.disk state.session.downloadDir content
      (sh.directory.execute state.session.vars state.world line).1
      ((sh.perform p line).runFrom ⟨state, printed, reported⟩).2.state
      (fun fault => p.Reported printed reported ((sh.perform p line).runFrom ⟨state, printed, reported⟩)
        (Shell.savingReport fault)) where
  answer := congrArg Prod.fst hr
  saved hne d' base place hsaves := by
    have htype := Shell.savedType?_contentResponse
      (Shell.noteStatus state.session (contentResponse content)) hne
    rw [← extensionFor_octets] at hsaves
    rw [Shell.perform_execute_state hline hr, Shell.takeResponse_of_saves sh htype hsaves]
    exact ⟨(Shell.holds_define_address _).address, hsaves.file⟩
  unsaved hne hnot := by
    have htype := Shell.savedType?_contentResponse
      (Shell.noteStatus state.session (contentResponse content)) hne
    rw [← extensionFor_octets] at hnot
    obtain ⟨hsession, -, fault, hreport⟩ := Shell.takeResponse_of_not_saves sh htype hnot
    rw [Shell.perform_execute_state hline hr, Shell.perform_course, Shell.handle_of_response hline hr,
      hsession]
    exact ⟨Shell.noteStatus_holds.address, fault,
      Shell.reported_of_report (Shell.takeResponse_broken sh state _) hreport⟩

/-- The content of a file that is written in base64 by one line is answered by the next line that reads the
captured text: with status 200 and the same content, and if there is any, it is saved and its address kept
where the download directory allows it, and else the fault is reported. -/
theorem base64_arrives (p q : Policy) (printed more : List String) (reported complaints : List Report)
    {first second : String} {middle : ShellState} (hsh : sh.HasUtility)
    (hfirst : Encodes ⟨state.session.vars, state.world⟩ first content)
    (hmiddle : ((sh.perform p first).runFrom ⟨state, printed, reported⟩).2.state = middle)
    (hsecond : DecodesLast second) :
    Arrives state.world.disk state.session.downloadDir content
      (sh.directory.execute middle.session.vars middle.world second).1
      ((sh.perform q second).runFrom ⟨middle, more, complaints⟩).2.state
      (fun fault => q.Reported more complaints ((sh.perform q second).runFrom ⟨middle, more, complaints⟩)
        (Shell.savingReport fault)) := by
  obtain ⟨hlast, hdisk, hdirectory⟩ := hfirst.captured hsh hmiddle
  have hr := hsecond.execute (s := ⟨middle.session.vars, middle.world⟩) hsh hlast
  obtain ⟨name, hcalls⟩ := hsecond
  -- The first line left the disk and the download directory alone: what can be saved now could be then.
  rw [← hdisk, ← hdirectory]
  exact arrives_of_execute q more complaints hcalls.classify hr

/-- Content that is no text. -/
def octets : Bytes := [0xFF, 0x00, 0xEF, 0xBB]

/-- A disk with two files. -/
def octetsDisk : Disk :=
  ⟨[(["octets"], .file octets), (["blocked"], .file [])], [], "/", [], 0⟩

/-- A session over `octetsDisk` with a download directory. -/
def octetsState (directory : DiskPath) : ShellState := .sample octetsDisk directory

/-- A line that writes `octets` in base64. -/
def encodingLine : String := "Utility encode_base64 /octets"

/-- A line that reads what was written. -/
def decodingLine : String := "Utility decode_base64 $LastResponse"

theorem encodingLine_encodes (directory : DiskPath) :
    Encodes ⟨(octetsState directory).session.vars, (octetsState directory).world⟩ encodingLine
      octets := by
  have hread : Command.read encodingLine =
      .ok ⟨"Utility", "encode_base64", [⟨.plain, "", "/octets"⟩]⟩ := by decide +kernel
  have hpath : Locator.localPath "/octets" = .ok (some ⟨1, ["octets"]⟩) := by decide +kernel
  have hplace : octetsDisk.locate ⟨1, ["octets"]⟩ = .ok ["octets"] :=
    Disk.locate_eq_ok_iff.2 ⟨by decide +kernel, by decide +kernel, by rfl⟩
  have hfile : octetsDisk.read ⟨1, ["octets"]⟩ = .ok octets := Disk.read_eq_ok_iff.2 ⟨_, hplace, rfl⟩
  exact ⟨_, "/octets", ⟨_, hread, rfl⟩, ⟨by decide, rfl⟩, contentOf_of_holdsAt ⟨_, hpath, hfile⟩⟩

theorem decodingLine_decodesLast : DecodesLast decodingLine := by
  have hread : Command.read decodingLine =
      .ok ⟨"Utility", "decode_base64", [⟨.reference, "", lastResponse⟩]⟩ := by decide +kernel
  exact ⟨"", _, hread, rfl⟩

/-- The session after `octets` was written. -/
def octetsMiddle (directory : DiskPath) : ShellState :=
  ((utilityShell.perform .printing encodingLine).runFrom ⟨octetsState directory, [], []⟩).2.state

/-- The session after `octets` was read again. -/
def octetsAfter (directory : DiskPath) : ShellState :=
  ((utilityShell.perform .printing decodingLine).runFrom ⟨octetsMiddle directory, [], []⟩).2.state

/-- `octetsDisk` once a download directory is made. -/
def savedDisk : Disk := octetsDisk.put ["saved"] .directory

theorem octets_saves :
    ∃ d' base place, Shell.Saves octetsDisk ⟨1, ["saved"]⟩ "bin" octets d' base place := by
  have hmade : octetsDisk.makeDirectories ⟨1, ["saved"]⟩ = (savedDisk, none) :=
    Disk.makeDirectories_of_makeDirectory (Disk.makeDirectory_eq_ok_iff.2 ⟨["saved"],
      Disk.locate_eq_ok_iff.2 ⟨by decide +kernel, by decide +kernel, by rfl⟩, rfl, rfl⟩)
  have hplace : savedDisk.locate (Shell.savingPath savedDisk ⟨1, ["saved"]⟩ "bin") =
      .ok ["saved", "00000000000000000000000000000001.bin"] := by
    have hpath : Shell.savingPath savedDisk ⟨1, ["saved"]⟩ "bin" =
        ⟨1, ["saved", "00000000000000000000000000000001.bin"]⟩ := by decide +kernel
    rw [hpath]
    exact Disk.locate_eq_ok_iff.2 ⟨by decide +kernel, by decide +kernel, by rfl⟩
  exact ⟨_, _, _, Shell.saves_of_made rfl hmade hplace (by decide +kernel)⟩

theorem base64_arrives_octets : utilityShell.HasUtility ∧
    Encodes ⟨(octetsState ⟨1, ["saved"]⟩).session.vars, (octetsState ⟨1, ["saved"]⟩).world⟩ encodingLine
      octets ∧
    ((utilityShell.perform .printing encodingLine).runFrom ⟨octetsState ⟨1, ["saved"]⟩, [], []⟩).2.state =
      octetsMiddle ⟨1, ["saved"]⟩ ∧
    DecodesLast decodingLine ∧
    (utilityShell.directory.execute (octetsMiddle ⟨1, ["saved"]⟩).session.vars
      (octetsMiddle ⟨1, ["saved"]⟩).world decodingLine).1 = .ok (contentResponse octets) ∧
    ∃ place, (octetsAfter ⟨1, ["saved"]⟩).session.value? lastResponseUri =
        some (DiskPath.address ⟨1, place⟩) ∧
      (octetsAfter ⟨1, ["saved"]⟩).world.disk.entry? place = some (.file octets) := by
  have hsh := utilityShell_hasUtility
  have hfirst := encodingLine_encodes ⟨1, ["saved"]⟩
  have hsecond := decodingLine_decodesLast
  have harrives := base64_arrives .printing .printing [] [] [] [] hsh hfirst rfl hsecond
  obtain ⟨d', base, place, hsaves⟩ := octets_saves
  exact ⟨hsh, hfirst, rfl, hsecond, harrives.answer, place,
    harrives.saved (by decide) d' base place hsaves⟩

/-- Where a file is in the place of the download directory, content arrives but is not saved. -/
theorem octets_not_saved : octets ≠ [] ∧
    Encodes ⟨(octetsState ⟨1, ["blocked"]⟩).session.vars, (octetsState ⟨1, ["blocked"]⟩).world⟩
      encodingLine octets ∧ DecodesLast decodingLine ∧
    (octetsAfter ⟨1, ["blocked"]⟩).session.value? lastResponseUri = some "" := by
  have hsh := utilityShell_hasUtility
  have hfirst := encodingLine_encodes ⟨1, ["blocked"]⟩
  have hsecond := decodingLine_decodesLast
  have hnot : ¬ ∃ d' base place, Shell.Saves octetsDisk ⟨1, ["blocked"]⟩ "bin" octets d' base place := by
    rintro ⟨d', base, place, hsaves⟩
    have hplace : octetsDisk.locate ⟨1, ["blocked"]⟩ = .ok ["blocked"] :=
      Disk.locate_eq_ok_iff.2 ⟨by decide +kernel, by decide +kernel, by rfl⟩
    exact Shell.not_saves_of_file rfl (Disk.find_eq_ok_iff.2 ⟨_, hplace, rfl⟩) hsaves
  have hmiddle : ((utilityShell.perform .printing encodingLine).runFrom
      ⟨octetsState ⟨1, ["blocked"]⟩, [], []⟩).2.state = octetsMiddle ⟨1, ["blocked"]⟩ := rfl
  obtain ⟨hlast, hdisk, hdirectory⟩ := hfirst.captured hsh hmiddle
  have hr := hsecond.execute (s := ⟨(octetsMiddle ⟨1, ["blocked"]⟩).session.vars,
    (octetsMiddle ⟨1, ["blocked"]⟩).world⟩) hsh hlast
  obtain ⟨name, hcalls⟩ := decodingLine_decodesLast
  have harrives := arrives_of_execute .printing [] [] hcalls.classify hr
  rw [hdisk, hdirectory] at harrives
  exact ⟨by decide, hfirst, hsecond, (harrives.unsaved (by decide) hnot).1⟩

end Builtin.Utility

end OperatorConsole
