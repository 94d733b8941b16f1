import OperatorConsole.Proofs.Disk.Address
import OperatorConsole.Proofs.Disk.Place
import OperatorConsole.Proofs.Disk.Directories
import OperatorConsole.Session.Shell

/-!
Saving content. What is saved is one file, its address is that of the place it is in, and nothing but
directories is made beside it. The name that is drawn for it is new, so the file is new too and lies
right in the directory that was asked for.
-/
namespace OperatorConsole

namespace Disk

/-- The same files with the same contents. -/
def SameFiles (d d' : Disk) : Prop :=
  ∀ place content, d'.entry? place = some (.file content) ↔ d.entry? place = some (.file content)

/-- One more file in a directory, and the same files beside it. -/
structure GainsFile (d d' : Disk) (folder : List String) (name : String) (content : Bytes) :
    Prop where
  isDirectory : d'.entry? folder = some .directory
  new : d.entry? (folder ++ [name]) = none
  file : d'.entry? (folder ++ [name]) = some (.file content)
  others : ∀ place ≠ folder ++ [name], ∀ bytes,
    d'.entry? place = some (.file bytes) ↔ d.entry? place = some (.file bytes)

/-- The disk with a directory made as far as it can be. -/
def prepared (d : Disk) (directory : DiskPath) : Disk :=
  match d.expandHome directory with
  | .ok base => (d.makeDirectories base).1
  | .error _ => d

/-- The name that is drawn next is new: no name on the disk begins with it. -/
def DrawsNew (d : Disk) : Prop :=
  ∀ entry ∈ d.entries, ∀ name ∈ entry.1, ¬ d.drawName.1.toList <+: name.toList

variable {d d' : Disk} {place : List String} {name : String} {e : Entry}

theorem Grown.sameFiles (h : Grown d d') : SameFiles d d' := fun _ _ => h.file_iff

/-! ### Drawn names -/

theorem exists_hexDigit_of_mem_hex {c : Char} : ∀ {width n : Nat}, c ∈ Text.Quoted.hex width n →
    ∃ k < 16, c = Utf8.hexDigit k
  | 0, n, h => by simp [Text.Quoted.hex] at h
  | width + 1, n, h => by
    rw [Text.Quoted.hex, List.mem_append, List.mem_singleton] at h
    rcases h with h | rfl
    · exact exists_hexDigit_of_mem_hex h
    · exact ⟨n % 16, Nat.mod_lt _ (by decide), rfl⟩

theorem hexDigit_plain : ∀ k < 16, Utf8.hexDigit k ≠ '/' ∧ Utf8.hexDigit k ≠ '.' := by decide

/-- A drawn name is not empty and holds neither slashes nor points. -/
theorem drawName_plain (d : Disk) :
    d.drawName.1.toList ≠ [] ∧ '/' ∉ d.drawName.1.toList ∧ '.' ∉ d.drawName.1.toList := by
  rw [show d.drawName.1.toList = Text.Quoted.hex 32 (d.drawn + 1) from String.toList_ofList]
  refine ⟨?_, fun h => ?_, fun h => ?_⟩
  · rw [Text.Quoted.hex]
    exact List.append_ne_nil_of_right_ne_nil _ (by simp)
  · obtain ⟨k, hk, he⟩ := exists_hexDigit_of_mem_hex h
    exact (hexDigit_plain k hk).1 he.symm
  · obtain ⟨k, hk, he⟩ := exists_hexDigit_of_mem_hex h
    exact (hexDigit_plain k hk).2 he.symm

/-- A name that begins with a drawn one does not lead back. -/
theorem lead_of_drawName (folder : List String) (h : d.drawName.1.toList <+: name.toList) :
    lead folder name = folder ++ [name] := by
  obtain ⟨hne, -, hpoint⟩ := d.drawName_plain
  rw [lead, if_neg]
  intro hup
  obtain ⟨c, cs, hcs⟩ := List.exists_cons_of_ne_nil hne
  rw [beq_iff_eq.1 hup, hcs, show "..".toList = ['.', '.'] from rfl] at h
  exact hpoint (by simp [hcs, (List.cons_prefix_cons.1 h).1])

@[simp]
theorem entry?_drawName (d : Disk) (names : List String) :
    Disk.entry? d.drawName.2 names = d.entry? names := rfl

theorem locate_drawName {p : DiskPath} :
    d.drawName.2.locate p = .ok place ↔ d.locate p = .ok place :=
  ⟨locate_mono (fun names => (entry?_drawName d names).symm.trans) rfl,
    locate_mono (fun names => (entry?_drawName d names).trans) rfl⟩

theorem absolute_drawName (d : Disk) (p : DiskPath) : d.drawName.2.absolute p = d.absolute p := rfl

theorem mem_entries_of_found (hne : place ≠ []) (h : d.entry? place = some e) :
    (place, e) ∈ d.entries := by
  rw [ entry?, if_neg (by simpa using hne)] at h
  obtain ⟨l₁, l₂, hl, -⟩ := List.lookup_eq_some_iff.1 h
  simp [hl]

/-- Nothing is where a name leads that begins with the one that is drawn. -/
theorem DrawsNew.entry?_eq_none (h : DrawsNew d) (place : List String)
    (hname : d.drawName.1.toList <+: name.toList) :
    d.entry? (place ++ [name]) = none := by
  refine Option.eq_none_iff_forall_ne_some.2 fun e he => ?_
  exact h _ (mem_entries_of_found (by simp) he) name (by simp) hname

end Disk

namespace Shell

variable {d d' : Disk} {directory base : DiskPath} {extension address : String} {content : Bytes}
  {fault : DiskFault}

/-- The path under which content is saved below a directory. -/
def savingPath (d : Disk) (base : DiskPath) (extension : String) : DiskPath :=
  base.join (DiskPath.ofString s!"{d.drawName.1}.{extension}")

/-- The path goes on from the directory with a name that begins with the drawn one. -/
theorem exists_savingPath (d : Disk) (base : DiskPath) (extension : String) :
    ∃ first rest, savingPath d base extension = ⟨base.slashes, base.names ++ first :: rest⟩ ∧
      d.drawName.1.toList <+: first.toList := by
  obtain ⟨hne, hslash, hpoint⟩ := d.drawName_plain
  obtain ⟨first, rest, hparse, hfirst⟩ :=
    DiskPath.parse_append ('.' :: extension.toList) hne hslash hpoint
  refine ⟨first, rest, ?_, hfirst⟩
  have htext : (s!"{d.drawName.1}.{extension}").toList =
      d.drawName.1.toList ++ '.' :: extension.toList := by
    simp [toString]
  rw [savingPath, DiskPath.ofString, htext, hparse]
  rfl

/-- What is done when content is saved. -/
structure Saves (d : Disk) (directory : DiskPath) (extension : String) (content : Bytes)
    (d' : Disk) (base : DiskPath) (place : List String) : Prop where
  expanded : d.expandHome directory = .ok base
  made : (d.makeDirectories base).2 = none
  located : (d.prepared directory).locate
    (savingPath (d.prepared directory) base extension) = .ok place
  free : Disk.entry? (d.prepared directory) place ≠ some .directory
  written : d' = (d.prepared directory).drawName.2.put place (.file content)

theorem makeDirectories_eq_prepared (hbase : d.expandHome directory = .ok base) :
    d.makeDirectories base = (d.prepared directory, (d.makeDirectories base).2) := by
  rw [Disk.prepared, hbase]

/-- Saving once the directory is made. -/
theorem saves_of_made {made : Disk} {place : List String}
    (hbase : d.expandHome directory = .ok base) (hmade : d.makeDirectories base = (made, none))
    (hplace : made.locate (savingPath made base extension) = .ok place)
    (hfree : made.entry? place ≠ some .directory) :
    Saves d directory extension content (made.drawName.2.put place (.file content)) base place := by
  have hprepared : d.prepared directory = made :=
    (Prod.mk.inj ((makeDirectories_eq_prepared hbase).symm.trans hmade)).1
  subst hprepared
  exact ⟨hbase, congrArg Prod.snd hmade, hplace, hfree, rfl⟩

theorem saveContent_eq_of_fault (hbase : d.expandHome directory = .ok base)
    (hmade : (d.makeDirectories base).2 = some fault) :
    saveContent d directory extension content = (d.prepared directory, .error fault) := by
  have hprepared := makeDirectories_eq_prepared hbase
  rw [hmade] at hprepared
  simp only [saveContent, hbase, hprepared]

theorem saveContent_eq (hbase : d.expandHome directory = .ok base)
    (hmade : (d.makeDirectories base).2 = none) :
    saveContent d directory extension content =
      match (d.prepared directory).drawName.2.write
        (savingPath (d.prepared directory) base extension) content with
      | .error fault => ((d.prepared directory).drawName.2, .error fault)
      | .ok d' => (d', .ok (d'.fileAddress (savingPath (d.prepared directory) base extension))) := by
  have hprepared := makeDirectories_eq_prepared hbase
  rw [hmade] at hprepared
  simp only [saveContent, hbase, hprepared]
  rfl

namespace Saves

variable {place : List String}

theorem ne_nil (h : Saves d directory extension content d' base place) : place ≠ [] := by
  rintro rfl
  exact h.free rfl

theorem here_eq (h : Saves d directory extension content d' base place) :
    d'.here = (d.prepared directory).here := by
  rw [h.written, Disk.here_put]
  rfl

/-- What is found after content was saved: the file, and all that was there before it. -/
theorem entry?_eq (h : Saves d directory extension content d' base place) (names : List String) :
    d'.entry? names = if names = place then some (.file content)
      else Disk.entry? (d.prepared directory) names := by
  rw [h.written, Disk.entry?_put h.ne_nil, Disk.entry?_drawName]

/-- The address of content that was saved spells out the place that it is in. -/
theorem fileAddress (h : Saves d directory extension content d' base place) :
    d'.fileAddress (savingPath (d.prepared directory) base extension) =
      DiskPath.address ⟨1, place⟩ := by
  rw [h.written, Disk.fileAddress, Disk.absolute_put, Disk.absolute_drawName,
    Disk.absolute_of_locate h.located, DiskPath.address]

end Saves

/-- Content that is saved is in the place that its address spells out. -/
theorem saveContent_ok (h : saveContent d directory extension content = (d', .ok address)) :
    ∃ base place, Saves d directory extension content d' base place ∧
      address = DiskPath.address ⟨1, place⟩ := by
  cases hbase : d.expandHome directory with
  | error fault => simp [saveContent, hbase] at h
  | ok base =>
    cases hmade : (d.makeDirectories base).2 with
    | some fault =>
      simp [saveContent_eq_of_fault hbase hmade] at h
    | none =>
      rw [saveContent_eq hbase hmade] at h
      split at h
      · simp at h
      · next written hwrite =>
        obtain ⟨place, hplace, hfree, rfl⟩ := Disk.write_eq_ok_iff.1 hwrite
        obtain ⟨rfl, haddress⟩ := Prod.mk.inj h
        rw [Disk.entry?_drawName] at hfree
        have hsaves : Saves d directory extension content _ base place :=
          ⟨hbase, hmade, Disk.locate_drawName.1 hplace, hfree, rfl⟩
        exact ⟨base, place, hsaves, (Except.ok.inj haddress).symm.trans hsaves.fileAddress⟩

/-- What can be saved is saved. -/
theorem Saves.saveContent_eq {place : List String}
    (h : Saves d directory extension content d' base place) :
    saveContent d directory extension content =
      (d', .ok (DiskPath.address ⟨1, place⟩)) := by
  have hwrite : (d.prepared directory).drawName.2.write
      (savingPath (d.prepared directory) base extension) content = .ok d' :=
    Disk.write_eq_ok_iff.2 ⟨place, Disk.locate_drawName.2 h.located, h.free, h.written⟩
  rw [Shell.saveContent_eq h.expanded h.made, hwrite]
  simp only [h.fileAddress]

theorem prepared_grown (d : Disk) (directory : DiskPath) : Disk.Grown d (d.prepared directory) := by
  rw [Disk.prepared]
  split
  · exact Disk.makeDirectories_grown _ _
  · exact .refl d

/-- When saving fails no file is new and none is changed. -/
theorem saveContent_error (h : saveContent d directory extension content = (d', .error fault)) :
    Disk.SameFiles d d' := by
  have hgrown := (prepared_grown d directory).sameFiles
  cases hbase : d.expandHome directory with
  | error fault =>
    simp only [saveContent, hbase, Prod.mk.injEq] at h
    rw [← h.1]
    exact fun _ _ => .rfl
  | ok base =>
    cases hmade : (d.makeDirectories base).2 with
    | some fault =>
      rw [saveContent_eq_of_fault hbase hmade] at h
      rwa [← (Prod.mk.inj h).1]
    | none =>
      rw [saveContent_eq hbase hmade] at h
      split at h
      · rw [← (Prod.mk.inj h).1]
        exact hgrown
      · simp at h

namespace Saves

variable {place : List String}

/-- Content is saved below the directory, along a name that begins with the drawn one. -/
theorem exists_folder (h : Saves d directory extension content d' base place) :
    ∃ folder first rest, (d.prepared directory).locate base = .ok folder ∧
      Disk.entry? (d.prepared directory) folder = some .directory ∧
      (d.prepared directory).drawName.1.toList <+: first.toList ∧
      savingPath (d.prepared directory) base extension =
        ⟨base.slashes, base.names ++ first :: rest⟩ ∧
      (d.prepared directory).walk (savingPath (d.prepared directory) base extension).text folder
        (first :: rest) = .ok place := by
  obtain ⟨first, rest, hpath, hfirst⟩ := exists_savingPath (d.prepared directory) base extension
  have hfind := Disk.makeDirectories_find h.made
  rw [makeDirectories_eq_prepared h.expanded] at hfind
  obtain ⟨folder, hfolder, hdirectory⟩ := Disk.find_eq_ok_iff.1 hfind
  have hbase := (Disk.locate_eq_ok_iff.1 hfolder).2.2
  have hwalk := (Disk.locate_eq_ok_iff.1 h.located).2.2
  have horigin : (d.prepared directory).origin (savingPath (d.prepared directory) base extension) =
      (d.prepared directory).origin base := by
    rw [hpath]
    rfl
  have hnames : (savingPath (d.prepared directory) base extension).names =
      base.names ++ first :: rest := by rw [hpath]
  rw [horigin, hnames, Disk.walk_append_eq_ok_iff] at hwalk
  obtain ⟨mid, hmid, hrest⟩ := hwalk
  obtain rfl : mid = folder :=
    (Disk.foldl_lead_of_walk hmid).trans (Disk.foldl_lead_of_walk hbase).symm
  exact ⟨mid, first, rest, hfolder, hdirectory, hfirst, hpath, hrest⟩

/-- Where the drawn name is new, content is saved right in the directory. -/
theorem exists_below (h : Saves d directory extension content d' base place)
    (hnew : (d.prepared directory).DrawsNew) :
    ∃ folder name, (d.prepared directory).locate base = .ok folder ∧
      Disk.entry? (d.prepared directory) folder = some .directory ∧
      Disk.entry? (d.prepared directory) (folder ++ [name]) = none ∧
      savingPath (d.prepared directory) base extension = Disk.below base name ∧
      place = folder ++ [name] := by
  obtain ⟨folder, name, rest, hfolder, hdirectory, hname, hpath, hwalk⟩ := h.exists_folder
  have hnone := hnew.entry?_eq_none folder hname
  have hlead := Disk.lead_of_drawName folder hname
  obtain ⟨-, -, hrest⟩ := Disk.walk_cons_eq_ok_iff.1 hwalk
  rw [hlead] at hrest
  -- nothing is there yet, so no path leads on from there
  cases rest with
  | nil => exact ⟨folder, name, hfolder, hdirectory, hnone, hpath, (Except.ok.inj hrest).symm⟩
  | cons next rest => exact absurd (Disk.walk_cons_eq_ok_iff.1 hrest).1 (by simp [hnone])

/-- A new name leads to a new file right in the directory. -/
theorem gainsFile (h : Saves d directory extension content d' base place)
    (hnew : (d.prepared directory).DrawsNew) :
    ∃ folder name, d'.locate base = .ok folder ∧ place = folder ++ [name] ∧
      Disk.GainsFile d d' folder name content := by
  have hgrown := prepared_grown d directory
  obtain ⟨folder, name, hfolder, hdirectory, hnone, -, rfl⟩ := h.exists_below hnew
  have hkept : ∀ names, Disk.entry? (d.prepared directory) names = some .directory →
      d'.entry? names = some .directory := fun names hn => by
    rw [h.entry?_eq, if_neg, hn]
    rintro rfl
    exact h.free hn
  refine ⟨folder, name, Disk.locate_mono hkept h.here_eq hfolder, rfl, hkept folder hdirectory, ?_,
    ?_, fun other ho bytes => ?_⟩
  · refine Option.eq_none_iff_forall_ne_some.2 fun e he => ?_
    have he := hgrown.kept _ _ he
    simp [hnone] at he
  · rw [h.entry?_eq, if_pos rfl]
  · rw [h.entry?_eq, if_neg ho, hgrown.file_iff]

end Saves

end Shell

end OperatorConsole
