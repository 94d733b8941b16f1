import OperatorConsole.Proofs.Argument.Value
import OperatorConsole.Proofs.Disk.Tree
import OperatorConsole.Proofs.Session.LastResponse

/-!
Saved responses as arguments. The address that is kept of a saved response leads a later file parameter
to the saved content under the saved name, as long as the path from the root to the file is no longer
than a path may be. Content is written along the path of the download directory and read along the
path from the root: only a relative download directory lets the one be short enough and the other not.
-/
namespace OperatorConsole

/-! ### Reading an address -/

namespace Scope

variable {s : Scope} {q : Parameter} {a : Argument} {folder : List String} {t : DeclaredType}
  {name text : String} {content : Bytes}

/-- What a variable refers to is the locator of a file. -/
theorem valueOf_reference (hkind : q.kind = .file) (hform : a.form = .reference)
    (hvar : s.vars.lookup a.value = some text) :
    s.valueOf q a = s.fileOf q.type text := by
  rw [valueOf_file hkind (textOf_of_lookup hform hvar), if_neg (by simp [hform])]

theorem contentOf_address {w : World} {p : DiskPath} (h : DiskPath.FromRoot p) :
    w.contentOf p.address = (w.disk.read p).mapError .disk := by
  rw [World.contentOf, DiskPath.localPath_address h]
  rfl

/-- A disk that is a tree gives the content of a file at its address, and its name. -/
theorem fileOf_address (htree : s.world.disk.IsTree)
    (hfile : s.world.disk.entry? (folder ++ [name]) = some (.file content))
    (hsize : Disk.Spellable (folder ++ [name])) :
    s.fileOf t (DiskPath.address ⟨1, folder ++ [name]⟩) =
      (t.makeFile content name).mapError .raised := by
  have he : s.world.disk.entry? (folder ++ [name]) ≠ none := by simp [hfile]
  have hroot := htree.fromRoot he
  have hname : DiskPath.name ⟨1, folder ++ [name]⟩ = name := by simp [DiskPath.name]
  rw [fileOf, contentOf_address hroot, htree.read_root hfile hsize, DiskPath.fileName_address hroot,
    hname]
  rfl

/-- The path from the root may be too long to be read along, though the file is there. -/
theorem fileOf_address_too_long (htree : s.world.disk.IsTree)
    (he : s.world.disk.entry? (folder ++ [name]) ≠ none)
    (hsize : ¬ Disk.Spellable (folder ++ [name])) :
    s.fileOf t (DiskPath.address ⟨1, folder ++ [name]⟩) =
      .error (.unavailable (DiskPath.address ⟨1, folder ++ [name]⟩)
        (.disk (.nameTooLong (DiskPath.text ⟨1, folder ++ [name]⟩)))) := by
  rw [fileOf, contentOf_address (htree.fromRoot he), htree.read_root_too_long he hsize]
  rfl

end Scope

/-! ### Saving keeps the disk a tree -/

namespace DiskPath

variable {p base q : DiskPath} {d : Disk}

theorem isName_join (hp : ∀ name ∈ p.names, IsName name) (hq : ∀ name ∈ q.names, IsName name) :
    ∀ name ∈ (p.join q).names, IsName name := by
  unfold join
  split
  · exact hq
  · intro name hn
    exact (List.mem_append.1 hn).elim (hp name) (hq name)

/-- A home directory has names like any path that is read from a text. -/
theorem isName_expandHome (hp : ∀ name ∈ p.names, IsName name) (h : d.expandHome p = .ok base) :
    ∀ name ∈ base.names, IsName name := by
  unfold Disk.expandHome at h
  split at h
  · next first rest hslashes hnames =>
    split at h
    · dsimp only at h
      split at h
      · simp at h
      · simp at h
      · next home _ _ =>
        obtain rfl := Except.ok.inj h
        intro name hn
        rcases List.mem_append.1 hn with hn | hn
        · exact isName_of_mem_parse hn
        · exact hp name (by simp [hnames, hn])
    · obtain rfl := Except.ok.inj h
      exact hp
  · obtain rfl := Except.ok.inj h
    exact hp

end DiskPath

namespace Shell

variable {d d' : Disk} {directory base : DiskPath} {extension : String} {content : Bytes}
  {place : List String}

theorem Saves.isTree (h : Saves d directory extension content d' base place) (htree : d.IsTree)
    (hnames : ∀ name ∈ directory.names, DiskPath.IsName name) : d'.IsTree := by
  have hbase := DiskPath.isName_expandHome hnames h.expanded
  have hprepared : (d.prepared directory).IsTree := by
    have hmade := htree.makeDirectories hbase
    rwa [makeDirectories_eq_prepared h.expanded] at hmade
  have hput := hprepared.put_located (e := .file content)
    (DiskPath.isName_join hbase fun _ hn => DiskPath.isName_of_mem_parse hn) h.located h.free
  refine hput.congr ?_ fun names => ?_
  · rw [h.here_eq, Disk.here_put]
  · rw [h.entry?_eq, Disk.entry?_put h.ne_nil]

theorem Saves.file (h : Saves d directory extension content d' base place) :
    d'.entry? place = some (.file content) := by
  rw [h.entry?_eq, if_pos rfl]

/-- Content is saved in an absolute directory only if the path from the root is short enough too. -/
theorem Saves.spellable (h : Saves d directory extension content d' base place)
    (habsolute : base.isAbsolute = true) : Disk.Spellable place := by
  obtain ⟨first, rest, hpath, -⟩ := exists_savingPath (d.prepared directory) base extension
  refine Disk.utf8ByteSize_root_le ?_ h.located
  rw [hpath]
  exact habsolute

theorem Saves.exists_name (h : Saves d directory extension content d' base place) :
    ∃ folder name, place = folder ++ [name] := by
  rcases List.eq_nil_or_concat place with rfl | ⟨folder, name, rfl⟩
  · exact absurd rfl h.ne_nil
  · exact ⟨folder, name, List.concat_eq_append⟩

/-! ### Later lines -/

/-- Variables still hold an address, and the file is untouched on a disk that is a tree. -/
structure Keeps (later : Scope) (address : String) (place : List String) (content : Bytes) :
    Prop where
  known : later.vars.lookup lastResponseUri = some address
  tree : later.world.disk.IsTree
  file : later.world.disk.entry? place = some (.file content)

/-- An argument for a file that refers to the address of the last response. -/
structure RefersToSaved (q : Parameter) (a : Argument) : Prop where
  kind : q.kind = .file
  form : a.form = .reference
  value : a.value = lastResponseUri

/-- What was saved can be given to operations: `d` was the disk before content was saved from a
download directory on, and `after` is the disk then. -/
structure ReadsBack (d after : Disk) (directory : DiskPath) (content : Bytes) (address : String)
    (folder : List String) (name : String) : Prop where
  spelled : address = DiskPath.address ⟨1, folder ++ [name]⟩
  file : after.entry? (folder ++ [name]) = some (.file content)
  tree : d.IsTree → (∃ text, directory = DiskPath.ofString text) → after.IsTree
  absolute : ∀ base, d.expandHome directory = .ok base → base.isAbsolute = true →
    Disk.Spellable (folder ++ [name])
  delivered : ∀ later q a, Keeps later address (folder ++ [name]) content → RefersToSaved q a →
    Disk.Spellable (folder ++ [name]) →
      later.valueOf q a = (q.type.makeFile content name).mapError .raised ∧
      (q.type.MakesPlainFiles →
        later.valueOf q a = .ok (.file q.type.fileTypeName content (some name)))
  refused : ∀ later q a, Keeps later address (folder ++ [name]) content → RefersToSaved q a →
    ¬ Disk.Spellable (folder ++ [name]) →
      later.valueOf q a = .error (.unavailable address
        (.disk (.nameTooLong (DiskPath.text ⟨1, folder ++ [name]⟩))))

theorem Saves.readsBack {folder : List String} {name : String}
    (h : Saves d directory extension content d' base (folder ++ [name])) :
    ReadsBack d d' directory content (DiskPath.address ⟨1, folder ++ [name]⟩) folder name where
  spelled := rfl
  file := h.file
  tree htree := by
    rintro ⟨text, rfl⟩
    exact h.isTree htree fun _ hn => DiskPath.isName_of_mem_parse hn
  absolute base' hbase' habsolute := by
    obtain rfl := Except.ok.inj (h.expanded.symm.trans hbase')
    exact h.spellable habsolute
  delivered later q a hkeeps hrefers hsize := by
    have hvar := hkeeps.known
    rw [← hrefers.value] at hvar
    have hvalue : later.valueOf q a = (q.type.makeFile content name).mapError .raised := by
      rw [Scope.valueOf_reference hrefers.kind hrefers.form hvar]
      exact Scope.fileOf_address hkeeps.tree hkeeps.file hsize
    exact ⟨hvalue, fun hplain => by rw [hvalue, DeclaredType.makeFile_eq hplain, mapError_ok]⟩
  refused later q a hkeeps hrefers hsize := by
    have hvar := hkeeps.known
    rw [← hrefers.value] at hvar
    rw [Scope.valueOf_reference hrefers.kind hrefers.form hvar]
    exact Scope.fileOf_address_too_long hkeeps.tree (by simp [hkeeps.file]) hsize

/-- An address is kept only of content that was saved. -/
theorem takeResponse_address {sh : Shell} {state : ShellState} {r : Response} {address : String}
    (h : (sh.takeResponse state r).state.session.value? lastResponseUri = some address)
    (hne : address ≠ "") :
    ∃ extension base place, Saves state.world.disk state.session.downloadDir extension r.body
        (sh.takeResponse state r).state.world.disk base place ∧
      address = DiskPath.address ⟨1, place⟩ := by
  have hempty : ∀ {other}, some other = some address → other ≠ "" := by
    rintro other ⟨⟩
    exact hne
  cases htype : savedType? (noteStatus state.session r) r with
  | none =>
    simp only [takeResponse, htype, captureText] at h
    rw [(holds_define_text _).address] at h
    exact absurd rfl (hempty h)
  | some type =>
    simp only [takeResponse, htype] at h ⊢
    cases hsave : saveContent state.world.disk (noteStatus state.session r).downloadDir
      (MediaType.extensionFor type) r.body with
    | mk disk saved =>
      cases saved with
      | error fault =>
        simp only [hsave] at h
        rw [noteStatus_holds.address] at h
        exact absurd rfl (hempty h)
      | ok found =>
        simp only [hsave] at h ⊢
        rw [(holds_define_address found).address] at h
        obtain ⟨base, place, hsaves, haddress⟩ := saveContent_ok hsave
        exact ⟨_, base, place, hsaves, (Option.some.inj h).symm.trans haddress⟩

/-- A response that a line saved can be given to operations by every later line that still knows its
address, as long as the file is untouched and the path from the root to it is not too long: a file
parameter gets a file of its type that is made of exactly the saved content and the name of the file. In an
absolute download directory the path is never too long, and one that is too long is reported. -/
theorem saved_response_reads_back (sh : Shell) (p : Policy) (state : ShellState)
    (printed : List String) (reported : List Report) (line : String) (r : Response) (w : World)
    (address : String)
    (hline : classify line = .execute)
    (hr : sh.directory.execute state.session.vars state.world line = (.ok r, w))
    (haddress : ((sh.perform p line).runFrom ⟨state, printed, reported⟩).2.state.session.value?
      lastResponseUri = some address)
    (hne : address ≠ "") :
    ∃ folder name, ReadsBack w.disk
      ((sh.perform p line).runFrom ⟨state, printed, reported⟩).2.state.world.disk
      state.session.downloadDir r.body address folder name := by
  rw [perform_execute_state hline hr] at haddress ⊢
  obtain ⟨extension, base, place, hsaves, rfl⟩ := takeResponse_address haddress hne
  obtain ⟨folder, name, rfl⟩ := hsaves.exists_name
  exact ⟨folder, name, hsaves.readsBack⟩

/-- What taking a response that is saved comes to. -/
theorem takeResponse_of_saves (sh : Shell) {state : ShellState} {r : Response} {type : String}
    (htype : savedType? (noteStatus state.session r) r = some type)
    (h : Saves state.world.disk state.session.downloadDir (MediaType.extensionFor type) r.body d' base
      place) :
    (sh.takeResponse state r).state =
      ⟨(noteStatus state.session r).define lastResponseUri (DiskPath.address ⟨1, place⟩),
        { state.world with disk := d' }⟩ := by
  have hsave : saveContent state.world.disk (noteStatus state.session r).downloadDir
      (MediaType.extensionFor type) r.body = (d', .ok (DiskPath.address ⟨1, place⟩)) := h.saveContent_eq
  simp only [takeResponse, htype, hsave]

/-- What taking a response comes to when its body cannot be saved. -/
theorem takeResponse_of_not_saves (sh : Shell) {state : ShellState} {r : Response} {type : String}
    (htype : savedType? (noteStatus state.session r) r = some type)
    (h : ¬ ∃ d' base place, Saves state.world.disk state.session.downloadDir
      (MediaType.extensionFor type) r.body d' base place) :
    (sh.takeResponse state r).state.session = noteStatus state.session r ∧
      state.world.disk.SameFiles (sh.takeResponse state r).state.world.disk ∧
      ∃ fault, (sh.takeResponse state r).report = some (savingReport fault) := by
  cases hsave : saveContent state.world.disk (noteStatus state.session r).downloadDir
    (MediaType.extensionFor type) r.body with
  | mk disk saved =>
    cases saved with
    | error fault =>
      simp only [takeResponse, htype, hsave]
      exact ⟨trivial, saveContent_error hsave, fault, rfl⟩
    | ok address =>
      obtain ⟨base, place, hsaves, -⟩ := saveContent_ok hsave
      exact absurd ⟨disk, base, place, hsaves⟩ h

/-- The name under which `pictureShell` saves a picture first. -/
def pictureName : String := "00000000000000000000000000000001.png"

theorem pictureState_saves : Saves pictureState.world.disk pictureState.session.downloadDir "png"
    pictureResponse.body
    (pictureDisk.drawName.2.put ["pictures", pictureName] (.file pictureResponse.body))
    ⟨1, ["pictures"]⟩ ["pictures", pictureName] := by
  have hpath : savingPath pictureDisk ⟨1, ["pictures"]⟩ "png" = ⟨1, ["pictures", pictureName]⟩ := by
    decide +kernel
  have hplace : pictureDisk.locate ⟨1, ["pictures", pictureName]⟩ =
      .ok ["pictures", pictureName] :=
    Disk.locate_eq_ok_iff.2 ⟨by decide +kernel, by decide +kernel, by rfl⟩
  exact saves_of_made rfl pictureState_made (hpath ▸ hplace) (by decide +kernel)

theorem picture_reads_back : classify "Picture get" = .execute ∧
    pictureShell.directory.execute pictureState.session.vars pictureState.world "Picture get" =
      (.ok pictureResponse, pictureState.world) ∧
    ((pictureShell.perform .printing "Picture get").runFrom
      ⟨pictureState, [], []⟩).2.state.session.value? lastResponseUri =
        some (DiskPath.address ⟨1, ["pictures", pictureName]⟩) ∧
    DiskPath.address ⟨1, ["pictures", pictureName]⟩ ≠ "" ∧
    ∃ folder name, ReadsBack pictureState.world.disk
      ((pictureShell.perform .printing "Picture get").runFrom
        ⟨pictureState, [], []⟩).2.state.world.disk
      pictureState.session.downloadDir pictureResponse.body
      (DiskPath.address ⟨1, ["pictures", pictureName]⟩) folder name := by
  have hline : classify "Picture get" = .execute := by rfl
  have hr := pictureShell_execute pictureState
  have htype : savedType? (noteStatus pictureState.session pictureResponse) pictureResponse =
      some "image/png" := by decide +kernel
  have hextension : MediaType.extensionFor "image/png" = "png" := by decide +kernel
  have haddress : ((pictureShell.perform .printing "Picture get").runFrom
      ⟨pictureState, [], []⟩).2.state.session.value? lastResponseUri =
        some (DiskPath.address ⟨1, ["pictures", pictureName]⟩) := by
    rw [perform_execute_state hline hr,
      takeResponse_of_saves _ htype (hextension ▸ pictureState_saves)]
    exact Session.value?_define_self ..
  have hne : DiskPath.address ⟨1, ["pictures", pictureName]⟩ ≠ "" := by decide +kernel
  exact ⟨hline, hr, haddress, hne, saved_response_reads_back _ _ _ _ _ _ _ _ _ hline hr haddress hne⟩

/-- A name that is nearly as long as a name may be. -/
def longName : String := String.ofList (List.replicate 254 'd')

/-- The names of a current directory that is about as deep as a path may be long. -/
def deepNames : List String := List.replicate 16 longName

/-- A disk with nothing but the current directory and those above it. -/
def deepDisk : Disk :=
  ⟨(List.range 16).map fun n => (deepNames.take (n + 1), .directory), deepNames, "/", [], 0⟩

/-- A session that saves in the current directory. -/
def deepState : ShellState := .sample deepDisk ⟨0, []⟩

theorem longName_isEntryName : Disk.IsEntryName longName := by
  have hlist : longName.toList = List.replicate 254 'd' := String.toList_ofList
  have hchars : ∀ c ∈ longName.toList, c = 'd' := by
    rw [hlist]
    exact fun c => List.eq_of_mem_replicate
  exact ⟨⟨by decide +kernel, by decide +kernel, fun h => absurd (hchars _ h) (by decide)⟩,
    by decide +kernel, fun h => absurd (hchars _ h) (by decide), by decide +kernel⟩

theorem deepDisk_directory : ∀ n ≤ 16, deepDisk.entry? (deepNames.take n) = some .directory := by
  decide +kernel

theorem deepDisk_isTree : deepDisk.IsTree where
  here := deepDisk_directory 16 (Nat.le_refl 16)
  above place name he := by
    obtain ⟨e, he⟩ := Option.ne_none_iff_exists'.1 he
    obtain ⟨n, hn, hentry⟩ := List.mem_map.1 (Disk.mem_entries_of_found (by simp) he)
    have hn : n < 16 := List.mem_range.1 hn
    have htake : ∀ k ≤ 16, deepNames.take k = List.replicate k longName := fun k hk => by
      rw [deepNames, List.take_replicate, Nat.min_eq_left hk]
    have hnames : deepNames.take n ++ [longName] = place ++ [name] := by
      rw [← (Prod.mk.inj hentry).1, htake n (by omega), htake (n + 1) (by omega),
        ← List.replicate_succ']
    obtain ⟨rfl, hname⟩ := List.append_inj' hnames (by simp)
    obtain rfl := List.singleton_inj.1 hname
    exact ⟨longName_isEntryName, deepDisk_directory n (Nat.le_of_lt hn)⟩

theorem deepState_saves : Saves deepState.world.disk deepState.session.downloadDir "png"
    pictureResponse.body
    (deepDisk.drawName.2.put (deepNames ++ [pictureName]) (.file pictureResponse.body))
    ⟨0, []⟩ (deepNames ++ [pictureName]) := by
  have hhere : deepDisk.entry? deepNames = some .directory := deepDisk_isTree.here
  have hfind : deepDisk.find ⟨0, []⟩ = .ok .directory :=
    Disk.find_eq_ok_iff.2 ⟨deepNames,
      Disk.locate_eq_ok_iff.2 ⟨by decide +kernel, by decide +kernel, by rfl⟩, hhere⟩
  have hpath : savingPath deepDisk ⟨0, []⟩ "png" = ⟨0, [pictureName]⟩ := by decide +kernel
  have hplace : deepDisk.locate ⟨0, [pictureName]⟩ = .ok (deepNames ++ [pictureName]) :=
    Disk.locate_eq_ok_iff.2 ⟨by decide +kernel, by decide +kernel,
      Disk.walk_cons_eq_ok_iff.2 ⟨hhere, by decide +kernel, by rfl⟩⟩
  have hfree : deepDisk.entry? (deepNames ++ [pictureName]) ≠ some .directory := by
    decide +kernel
  exact saves_of_made rfl (Disk.makeDirectories_of_find hfind) (hpath ▸ hplace) hfree

/-- A parameter for a file. -/
def uploadParameter : Parameter := .ofType "upload" .content .required

/-- An argument that refers to the address of the last response. -/
def savedArgument : Argument := ⟨.reference, "", lastResponseUri⟩

/-- The state of `deepState` after a picture was saved. -/
def deepAfter : ShellState :=
  ((pictureShell.perform .printing "Picture get").runFrom ⟨deepState, [], []⟩).2.state

/-- The current directory is deep, so a picture is saved along a relative path that is short, but its
address leads along a path that is too long: the next line cannot give the picture to anything. -/
theorem deep_picture_refused : classify "Picture get" = .execute ∧
    pictureShell.directory.execute deepState.session.vars deepState.world "Picture get" =
      (.ok pictureResponse, deepState.world) ∧
    Keeps ⟨deepAfter.session.vars, deepAfter.world⟩
      (DiskPath.address ⟨1, deepNames ++ [pictureName]⟩) (deepNames ++ [pictureName])
      pictureResponse.body ∧
    RefersToSaved uploadParameter savedArgument ∧
    Scope.valueOf ⟨deepAfter.session.vars, deepAfter.world⟩ uploadParameter savedArgument =
      .error (.unavailable (DiskPath.address ⟨1, deepNames ++ [pictureName]⟩)
        (.disk (.nameTooLong (DiskPath.text ⟨1, deepNames ++ [pictureName]⟩)))) := by
  have hline : classify "Picture get" = .execute := by rfl
  have hr := pictureShell_execute deepState
  have htype : savedType? (noteStatus deepState.session pictureResponse) pictureResponse =
      some "image/png" := by decide +kernel
  have hextension : MediaType.extensionFor "image/png" = "png" := by decide +kernel
  have hsize : ¬ Disk.Spellable (deepNames ++ [pictureName]) := by
    unfold Disk.Spellable
    decide +kernel
  have hreads := deepState_saves.readsBack
  have hrefers : RefersToSaved uploadParameter savedArgument := ⟨rfl, rfl, rfl⟩
  have hafter := takeResponse_of_saves pictureShell htype (hextension ▸ deepState_saves)
  rw [← perform_execute_state hline hr, ← deepAfter] at hafter
  have hknown : deepAfter.session.value? lastResponseUri =
      some (DiskPath.address ⟨1, deepNames ++ [pictureName]⟩) := by
    rw [hafter]
    exact Session.value?_define_self ..
  have hdisk := congrArg (·.world.disk) hafter
  have htext : deepState.session.downloadDir = DiskPath.ofString "" := by decide +kernel
  have htree := hreads.tree deepDisk_isTree ⟨"", htext⟩
  have hfile := hreads.file
  dsimp only at hdisk
  rw [← hdisk] at htree hfile
  have hkeeps : Keeps ⟨deepAfter.session.vars, deepAfter.world⟩
      (DiskPath.address ⟨1, deepNames ++ [pictureName]⟩) (deepNames ++ [pictureName])
      pictureResponse.body := ⟨hknown, htree, hfile⟩
  exact ⟨hline, hr, hkeeps, hrefers, hreads.refused _ _ _ hkeeps hrefers hsize⟩

end Shell

end OperatorConsole
