import OperatorConsole.Proofs.MediaType
import OperatorConsole.Proofs.Session.ReadBack

/-!
Names of saved content. Content is saved right in the download directory, under the drawn name with the
extension of its media type, whenever that is one name and the disk takes it. The extension is never empty,
but it may hold a slash: then the path leads on below a directory that is not there, and nothing is saved.
-/
namespace OperatorConsole.Shell

variable {d d' : Disk} {directory base : DiskPath} {extension name type : String} {content : Bytes}
  {place : List String} {part : List Char} {parts : List (List Char)}

/-! ### The path -/

/-- The name that is drawn, with an extension. -/
def drawnName (d : Disk) (extension : String) : String := s!"{d.drawName.1}.{extension}"

theorem toList_drawnName (d : Disk) (extension : String) :
    (drawnName d extension).toList = d.drawName.1.toList ++ '.' :: extension.toList := by
  simp [drawnName, toString]

/-- What stands before the first slash of an extension belongs to the name, and what stands between slashes
leads on below it. -/
theorem savingPath_of_splitAt (h : Text.splitAt '/' extension.toList = part :: parts) (d : Disk)
    (base : DiskPath) : savingPath d base extension =
      ⟨base.slashes, base.names ++ String.ofList (d.drawName.1.toList ++ '.' :: part) ::
        (parts.filter fun name => name != [] && name != ['.']).map String.ofList⟩ := by
  obtain ⟨hne, hslash, hpoint⟩ := d.drawName_plain
  have hpart : Text.splitAt '/' ('.' :: extension.toList) = ('.' :: part) :: parts :=
    Text.splitAt_cons_of_ne (by decide) h
  have hname : s!"{d.drawName.1}.{extension}" = drawnName d extension := rfl
  rw [savingPath, hname, DiskPath.ofString, toList_drawnName,
    DiskPath.parse_append_of_splitAt hpart hne hslash hpoint]
  rfl

/-- An extension without slashes makes one name. -/
theorem savingPath_of_not_mem (h : '/' ∉ extension.toList) (d : Disk) (base : DiskPath) :
    savingPath d base extension = Disk.below base (drawnName d extension) := by
  rw [savingPath_of_splitAt (Text.splitAt_of_not_mem h), ← toList_drawnName, String.ofList_toList]
  rfl

/-- The path has one name more than the directory just where nothing but points stands between the slashes
of the extension. -/
theorem exists_below_iff : (∃ name, savingPath d base extension = Disk.below base name) ↔
    ∀ part ∈ (Text.splitAt '/' extension.toList).tail, part = [] ∨ part = ['.'] := by
  obtain ⟨part, parts, hparts⟩ := Text.exists_splitAt '/' extension.toList
  have hnone : (parts.filter fun name => name != [] && name != ['.']) = [] ↔
      ∀ part ∈ parts, part = [] ∨ part = ['.'] := by
    rw [List.filter_eq_nil_iff]
    refine forall₂_congr fun other _ => ?_
    by_cases hempty : other = [] <;> simp [hempty]
  rw [savingPath_of_splitAt hparts, hparts, List.tail_cons, ← hnone]
  constructor
  · rintro ⟨name, hname⟩
    have hnames := List.append_cancel_left (congrArg DiskPath.names hname)
    simpa using (List.cons.inj hnames).2
  · intro hempty
    exact ⟨_, by rw [hempty]; rfl⟩

/-! ### Saving -/

/-- Once the directory is made, content is saved just where the path has one name more and the disk takes
this name. -/
theorem exists_saves_iff (hbase : d.expandHome directory = .ok base)
    (hmade : (d.makeDirectories base).2 = none) (hnew : (d.prepared directory).DrawsNew) :
    (∃ d' base' place, Saves d directory extension content d' base' place) ↔
      ∃ name, savingPath (d.prepared directory) base extension = Disk.below base name ∧
        Disk.Takes base name := by
  constructor
  · rintro ⟨d', base', place, h⟩
    obtain rfl := Except.ok.inj (hbase.symm.trans h.expanded)
    obtain ⟨folder, name, hfolder, hdirectory, -, hpath, -⟩ := h.exists_below hnew
    have hlocated := h.located
    rw [hpath, Disk.locate_below_iff hfolder hdirectory] at hlocated
    exact ⟨name, hpath, hlocated.1⟩
  · rintro ⟨name, hpath, htakes⟩
    have hfind := Disk.makeDirectories_find hmade
    rw [makeDirectories_eq_prepared hbase] at hfind
    obtain ⟨folder, hfolder, hdirectory⟩ := Disk.find_eq_ok_iff.1 hfind
    have hdrawn : (d.prepared directory).drawName.1.toList <+: name.toList := by
      obtain ⟨first, rest, hfirst, hprefix⟩ := exists_savingPath (d.prepared directory) base extension
      have hnames := List.append_cancel_left (congrArg DiskPath.names (hfirst.symm.trans hpath))
      rwa [(List.cons.inj hnames).1] at hprefix
    have hlocated : (d.prepared directory).locate
        (savingPath (d.prepared directory) base extension) = .ok (folder ++ [name]) := by
      rw [hpath, Disk.locate_below_iff hfolder hdirectory, Disk.lead_of_drawName folder hdrawn]
      exact ⟨htakes, rfl⟩
    have hnone := hnew.entry?_eq_none folder hdrawn
    exact ⟨_, base, folder ++ [name], hbase, hmade, hlocated, by simp [hnone], rfl⟩

/-- Content is saved under the one name that the path has more than the directory. -/
theorem Saves.gainsFile_below (h : Saves d directory extension content d' base place)
    (hnew : (d.prepared directory).DrawsNew)
    (hpath : savingPath (d.prepared directory) base extension = Disk.below base name) :
    ∃ folder, d'.locate base = .ok folder ∧ place = folder ++ [name] ∧
      d.GainsFile d' folder name content := by
  obtain ⟨folder, last, hfolder, hplace, hgains⟩ := h.gainsFile hnew
  obtain ⟨folder', other, -, -, -, hother, hplace'⟩ := h.exists_below hnew
  obtain rfl := Disk.below_injective (hpath.symm.trans hother)
  obtain ⟨rfl, hlast⟩ := List.append_inj' (hplace.symm.trans hplace') rfl
  obtain rfl := List.singleton_inj.1 hlast
  exact ⟨folder, hfolder, hplace, hgains⟩

/-- Content of a media type was saved under the name that its extension makes, or was not: `d` was the disk
before it, and `failed` says of a fault that it was reported. -/
structure SavedByType (d : Disk) (directory base : DiskPath) (type : String) (content : Bytes)
    (failed : DiskFault → Prop) (after : ShellState) : Prop where
  extension : MediaType.extensionFor type ≠ ""
  slash : '/' ∈ (MediaType.extensionFor type).toList ↔
    ¬ MediaType.IsKnown type ∧ '/' ∈ MediaType.subtype (MediaType.normal type)
  path : '/' ∉ (MediaType.extensionFor type).toList →
    savingPath (d.prepared directory) base (MediaType.extensionFor type) =
      Disk.below base (drawnName (d.prepared directory) (MediaType.extensionFor type))
  single : (∃ name, savingPath (d.prepared directory) base (MediaType.extensionFor type) =
      Disk.below base name) ↔
    ∀ part ∈ (Text.splitAt '/' (MediaType.extensionFor type).toList).tail, part = [] ∨ part = ['.']
  saved : ∀ name, savingPath (d.prepared directory) base (MediaType.extensionFor type) =
      Disk.below base name → Disk.Takes base name →
    ∃ folder, after.world.disk.locate base = .ok folder ∧
      d.GainsFile after.world.disk folder name content ∧
      after.session.Holds "" (DiskPath.address ⟨1, folder ++ [name]⟩)
  unsaved : (¬ ∃ name, savingPath (d.prepared directory) base (MediaType.extensionFor type) =
      Disk.below base name ∧ Disk.Takes base name) →
    after.session.Holds "" "" ∧ d.SameFiles after.world.disk ∧ ∃ fault, failed fault

variable {sh : Shell} {p : Policy} {state : ShellState} {line : String} {r : Response} {w : World}

theorem takeResponse_savedByType (sh : Shell) (state : ShellState) (htype : r.mediaType = some type)
    (hsavable : r.IsSavable state.session.debug)
    (hbase : state.world.disk.expandHome state.session.downloadDir = .ok base)
    (hmade : (state.world.disk.makeDirectories base).2 = none)
    (hnew : (state.world.disk.prepared state.session.downloadDir).DrawsNew) :
    SavedByType state.world.disk state.session.downloadDir base type r.body
      (fun fault => (sh.takeResponse state r).report = some (savingReport fault))
      (sh.takeResponse state r).state := by
  have hsaved : savedType? (noteStatus state.session r) r = some type := by
    obtain ⟨⟨found, hfound, hplain⟩, hbody, hwanted⟩ := hsavable
    obtain rfl := Option.some.inj (htype.symm.trans hfound)
    exact savedType?_eq_some_iff.2 ⟨htype, hplain, hbody, hwanted⟩
  refine ⟨MediaType.extensionFor_ne_empty type, MediaType.slash_mem_extensionFor_iff,
    fun h => savingPath_of_not_mem h _ _, exists_below_iff, fun name hpath htakes => ?_,
    fun hnot => ?_⟩
  · obtain ⟨d', base', place, hsaves⟩ := (exists_saves_iff hbase hmade hnew).2 ⟨name, hpath, htakes⟩
    obtain rfl := Except.ok.inj (hbase.symm.trans hsaves.expanded)
    obtain ⟨folder, hfolder, rfl, hgains⟩ := hsaves.gainsFile_below hnew hpath
    rw [takeResponse_of_saves sh hsaved hsaves]
    exact ⟨folder, hfolder, hgains, holds_define_address _⟩
  · obtain ⟨hsession, hfiles, fault, hreport⟩ := takeResponse_of_not_saves sh hsaved
      fun h => hnot ((exists_saves_iff hbase hmade hnew).1 h)
    rw [hsession]
    exact ⟨noteStatus_holds, hfiles, fault, hreport⟩

/-- Once the download directory is made, a line that gives content which is to be saved leaves exactly that
content in one new file right in the directory, as long as the extension of its media type makes one name
with the drawn one and the disk takes that name. Else no file changes and the fault is reported. An extension
without slashes always makes one name, and only a subtype with a slash inside brings a slash into it. -/
theorem content_saved_by_type (sh : Shell) (p : Policy) (state : ShellState) (printed : List String)
    (reported : List Report) (hline : classify line = .execute)
    (hr : sh.directory.execute state.session.vars state.world line = (.ok r, w))
    (htype : r.mediaType = some type) (hsavable : r.IsSavable state.session.debug)
    (hbase : w.disk.expandHome state.session.downloadDir = .ok base)
    (hmade : (w.disk.makeDirectories base).2 = none)
    (hnew : (w.disk.prepared state.session.downloadDir).DrawsNew) :
    SavedByType w.disk state.session.downloadDir base type r.body
      (fun fault => p.Reported printed reported
        ((sh.perform p line).runFrom ⟨state, printed, reported⟩) (savingReport fault))
      ((sh.perform p line).runFrom ⟨state, printed, reported⟩).2.state := by
  have hnamed := takeResponse_savedByType sh ⟨state.session, w⟩ htype hsavable hbase hmade hnew
  rw [perform_execute_state hline hr, perform_course, handle_of_response hline hr]
  refine { hnamed with unsaved := fun hnot => ?_ }
  obtain ⟨hholds, hfiles, fault, hreport⟩ := hnamed.unsaved hnot
  exact ⟨hholds, hfiles, fault, reported_of_report (takeResponse_broken sh _ r) hreport⟩

/-- A picture can be saved in the state of `pictureState`. -/
theorem pictureState_ready : pictureState.world.disk.expandHome pictureState.session.downloadDir =
      .ok ⟨1, ["pictures"]⟩ ∧
    (pictureState.world.disk.makeDirectories ⟨1, ["pictures"]⟩).2 = none ∧
    (pictureState.world.disk.prepared pictureState.session.downloadDir).DrawsNew := by
  have hprepared : pictureState.world.disk.prepared pictureState.session.downloadDir = pictureDisk :=
    congrArg Prod.fst pictureState_made
  refine ⟨rfl, congrArg Prod.snd pictureState_made, ?_⟩
  rw [hprepared, Disk.DrawsNew]
  decide +kernel

theorem content_saved_by_type_picture : classify "Picture get" = .execute ∧
    pictureShell.directory.execute pictureState.session.vars pictureState.world "Picture get" =
      (.ok pictureResponse, pictureState.world) ∧
    pictureResponse.mediaType = some "image/png" ∧
    pictureResponse.IsSavable pictureState.session.debug ∧
    pictureState.world.disk.expandHome pictureState.session.downloadDir = .ok ⟨1, ["pictures"]⟩ ∧
    (pictureState.world.disk.makeDirectories ⟨1, ["pictures"]⟩).2 = none ∧
    (pictureState.world.disk.prepared pictureState.session.downloadDir).DrawsNew ∧
    SavedByType pictureState.world.disk pictureState.session.downloadDir ⟨1, ["pictures"]⟩ "image/png"
      pictureResponse.body
      (fun fault => Policy.Reported .printing [] []
        ((pictureShell.perform .printing "Picture get").runFrom ⟨pictureState, [], []⟩)
        (savingReport fault))
      ((pictureShell.perform .printing "Picture get").runFrom ⟨pictureState, [], []⟩).2.state := by
  have hline : classify "Picture get" = .execute := by rfl
  have hr := pictureShell_execute pictureState
  have htype : pictureResponse.mediaType = some "image/png" := by decide +kernel
  have hsavable : pictureResponse.IsSavable pictureState.session.debug :=
    ⟨⟨_, htype, by decide +kernel⟩, by decide, .inr (by decide)⟩
  obtain ⟨hbase, hmade, hnew⟩ := pictureState_ready
  exact ⟨hline, hr, htype, hsavable, hbase, hmade, hnew,
    content_saved_by_type _ _ _ _ _ hline hr htype hsavable hbase hmade hnew⟩

/-- A picture of a type that is not known, with a slash in its subtype. -/
def dividedResponse : Response := ⟨200, [("Content-Type", ["image/a/b"])], [0x89, 0x50]⟩

/-- The extension of the type holds a slash, and the picture is not saved although the download directory
can be made. -/
theorem divided_type_not_saved : dividedResponse.mediaType = some "image/a/b" ∧
    dividedResponse.IsSavable pictureState.session.debug ∧
    pictureState.world.disk.expandHome pictureState.session.downloadDir = .ok ⟨1, ["pictures"]⟩ ∧
    (pictureState.world.disk.makeDirectories ⟨1, ["pictures"]⟩).2 = none ∧
    MediaType.extensionFor "image/a/b" = "a/b" ∧
    (((givingShell dividedResponse).perform .printing "Thing fail").runFrom
      ⟨pictureState, [], []⟩).2.state.session.Holds "" "" ∧
    pictureState.world.disk.SameFiles (((givingShell dividedResponse).perform .printing
      "Thing fail").runFrom ⟨pictureState, [], []⟩).2.state.world.disk := by
  have htype : dividedResponse.mediaType = some "image/a/b" := by decide +kernel
  have hsavable : dividedResponse.IsSavable pictureState.session.debug :=
    ⟨⟨_, htype, by decide +kernel⟩, by decide, .inr (by decide)⟩
  obtain ⟨hbase, hmade, hnew⟩ := pictureState_ready
  have hextension : MediaType.extensionFor "image/a/b" = "a/b" := by decide +kernel
  have hnamed := takeResponse_savedByType (givingShell dividedResponse) pictureState htype hsavable
    hbase hmade hnew
  have hparts : ¬ ∀ part ∈ (Text.splitAt '/' (MediaType.extensionFor "image/a/b").toList).tail,
      part = [] ∨ part = ['.'] := by
    rw [hextension]
    decide
  obtain ⟨hholds, hfiles, -⟩ := hnamed.unsaved fun ⟨name, hpath, _⟩ =>
    hparts (hnamed.single.1 ⟨name, hpath⟩)
  rw [givingShell_state]
  exact ⟨htype, hsavable, hbase, hmade, hextension, hholds, hfiles⟩

end OperatorConsole.Shell
