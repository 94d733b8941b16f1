import Mathlib.Data.List.Infix
import Mathlib.Data.List.Induction
import OperatorConsole.Proofs.Disk.Directories
import OperatorConsole.Proofs.Disk.Path

/-!
Disks that are trees. Above every entry are directories, and every entry has a name that a path can
spell. On such a disk the path from the root along the names of an entry leads to that entry, unless
its text is longer than a path may be; and making directories and files keeps the disk a tree.
-/
namespace OperatorConsole.Disk

/-- A name that an entry can have. -/
structure IsEntryName (name : String) : Prop extends DiskPath.IsName name where
  ne_up : name ≠ ".."
  no_nul : Char.ofNat 0 ∉ name.toList
  short : name.utf8ByteSize ≤ nameLimit

/-- A disk on which every entry has a name and stands in a directory, and so does the current
directory. -/
structure IsTree (d : Disk) : Prop where
  here : d.entry? d.here = some .directory
  above : ∀ place name, d.entry? (place ++ [name]) ≠ none →
    IsEntryName name ∧ d.entry? place = some .directory

/-- The path from the root to a place is no longer than a path may be. -/
def Spellable (place : List String) : Prop := (DiskPath.text ⟨1, place⟩).utf8ByteSize ≤ pathLimit

variable {d d' : Disk} {place rest : List String} {name path : String} {p : DiskPath} {e : Entry}
  {content : Bytes}

namespace IsTree

/-! ### Above an entry -/

theorem isEntryName (h : IsTree d) : d.entry? place ≠ none → ∀ name ∈ place, IsEntryName name := by
  induction place using List.reverseRecOn with
  | nil => simp
  | append_singleton place last ih =>
    intro he name hn
    obtain ⟨hlast, hplace⟩ := h.above place last he
    rcases List.mem_append.1 hn with hn | hn
    · exact ih (by simp [hplace]) name hn
    · rwa [List.mem_singleton.1 hn]

/-- Every place above an entry is a directory. -/
theorem directory_of_append (h : IsTree d) (hne : rest ≠ []) :
    d.entry? (place ++ rest) ≠ none → d.entry? place = some .directory := by
  induction rest using List.reverseRecOn with
  | nil => exact absurd rfl hne
  | append_singleton rest last ih =>
    intro he
    rw [← List.append_assoc] at he
    have hdirectory := (h.above _ last he).2
    cases rest with
    | nil => rwa [List.append_nil] at hdirectory
    | cons name rest => exact ih (by simp) (by simp [hdirectory])

/-! ### From the root -/

/-- The walk along the names of an entry leads there. -/
theorem walk (h : IsTree d) : ∀ {rest place : List String}, d.entry? (place ++ rest) ≠ none →
    d.walk path place rest = .ok (place ++ rest)
  | [], place, _ => by rw [List.append_nil, walk_nil]
  | name :: rest, place, he => by
    have hname := h.isEntryName he name (by simp)
    have hlead : lead place name = place ++ [name] := if_neg (by simpa using hname.ne_up)
    have happend : place ++ name :: rest = (place ++ [name]) ++ rest := by simp
    refine walk_cons_eq_ok_iff.2 ⟨h.directory_of_append (by simp) he, hname.short, ?_⟩
    rw [hlead, happend]
    exact h.walk (happend ▸ he)

theorem fromRoot (h : IsTree d) (he : d.entry? place ≠ none) : DiskPath.FromRoot ⟨1, place⟩ :=
  ⟨.inl rfl, fun name hn => (h.isEntryName he name hn).toIsName⟩

/-- The text of the path from the root to an entry holds no character that a path must not. -/
theorem nul_not_mem (h : IsTree d) (he : d.entry? place ≠ none) :
    Char.ofNat 0 ∉ (DiskPath.text ⟨1, place⟩).toList := by
  intro hnul
  rw [DiskPath.toList_text rfl, List.mem_append] at hnul
  rcases hnul with hslash | hbody
  · exact absurd (List.eq_of_mem_replicate hslash) (by decide)
  · rcases Text.mem_intercalate hbody with hslash | ⟨part, hpart, hmem⟩
    · exact absurd hslash (by decide)
    · obtain ⟨name, hn, rfl⟩ := List.mem_map.1 hpart
      exact (h.isEntryName he name hn).no_nul hmem

theorem locate_root (h : IsTree d) (he : d.entry? place ≠ none) (hsize : Spellable place) :
    d.locate ⟨1, place⟩ = .ok place := by
  have hroot : d.entry? ([] ++ place) ≠ none := he
  exact locate_eq_ok_iff.2 ⟨h.nul_not_mem he, hsize, h.walk hroot⟩

/-- A file is read along the path from the root. -/
theorem read_root (h : IsTree d) (he : d.entry? place = some (.file content))
    (hsize : Spellable place) : d.read ⟨1, place⟩ = .ok content :=
  read_eq_ok_iff.2 ⟨place, h.locate_root (by simp [he]) hsize, he⟩

/-- A path whose text is too long leads nowhere, whatever is there. -/
theorem read_root_too_long (h : IsTree d) (he : d.entry? place ≠ none) (hsize : ¬ Spellable place) :
    d.read ⟨1, place⟩ = .error (.nameTooLong (DiskPath.text ⟨1, place⟩)) := by
  have hlocate : d.locate ⟨1, place⟩ = .error (.nameTooLong (DiskPath.text ⟨1, place⟩)) := by
    rw [locate, String.contains_char_eq, if_neg (by simpa using h.nul_not_mem he),
      if_pos (Nat.not_le.1 hsize)]
  rw [read, find, hlocate]
  rfl

theorem congr (h : IsTree d) (hhere : d'.here = d.here)
    (hentries : ∀ names, d'.entry? names = d.entry? names) : IsTree d' where
  here := by rw [hhere, hentries, h.here]
  above place name he := by
    rw [hentries] at he ⊢
    exact h.above place name he

/-! ### New entries -/

/-- A path of names that is located somewhere but at a directory ends with the name of an entry, and
what is above it is a directory. -/
theorem exists_folder (h : IsTree d) (hnames : ∀ name ∈ p.names, DiskPath.IsName name)
    (hplace : d.locate p = .ok place) (he : d.entry? place ≠ some .directory) :
    ∃ folder name, place = folder ++ [name] ∧ IsEntryName name ∧
      d.entry? folder = some .directory := by
  obtain ⟨hnul, -, hwalk⟩ := locate_eq_ok_iff.1 hplace
  have horigin : d.entry? (d.origin p) = some .directory := by
    unfold origin
    split
    · rfl
    · exact h.here
  rcases List.eq_nil_or_concat p.names with hnil | ⟨names, last, hlast⟩
  · rw [hnil, walk_nil, Except.ok.injEq] at hwalk
    exact absurd (hwalk ▸ horigin) he
  · rw [List.concat_eq_append] at hlast
    have hmem : last ∈ p.names := by simp [hlast]
    rw [hlast, walk_append_eq_ok_iff] at hwalk
    obtain ⟨folder, -, hwalk⟩ := hwalk
    obtain ⟨hfolder, hshort, hend⟩ := walk_cons_eq_ok_iff.1 hwalk
    rw [walk_nil, Except.ok.injEq] at hend
    by_cases hup : last = ".."
    · -- two points lead to what is above a directory, and that is one too
      have hback : place = folder.dropLast := by
        rw [← hend, lead, if_pos (by simpa using hup)]
      rcases List.eq_nil_or_concat folder with hnil | ⟨above, name, hname⟩
      · exact absurd (by rw [hback, hnil]; rfl) he
      · rw [List.concat_eq_append] at hname
        have habove := (h.above above name (by rw [← hname, hfolder]; simp)).2
        rw [hback, hname, List.dropLast_concat] at he
        exact absurd habove he
    · have hgo : place = folder ++ [last] := by
        rw [← hend, lead, if_neg (by simpa using hup)]
      refine ⟨folder, last, hgo, ⟨hnames last hmem, hup, fun hc => ?_, hshort⟩, hfolder⟩
      exact hnul (DiskPath.mem_text hmem hc)

/-- An entry that is put into a directory, in no directory's place, keeps the disk a tree. -/
theorem put (h : IsTree d) (hname : IsEntryName name) (hplace : d.entry? place = some .directory)
    (hfree : d.entry? (place ++ [name]) ≠ some .directory) : IsTree (d.put (place ++ [name]) e) := by
  have hkept : ∀ names, d.entry? names = some .directory →
      Disk.entry? (d.put (place ++ [name]) e) names = some .directory := fun names hn => by
    rw [entry?_put_of_ne (by simp), hn]
    rintro rfl
    exact hfree hn
  constructor
  · rw [here_put]
    exact hkept _ h.here
  · intro folder last he
    by_cases heq : folder ++ [last] = place ++ [name]
    · obtain ⟨rfl, hlast⟩ := List.append_inj' heq rfl
      obtain rfl := List.singleton_inj.1 hlast
      exact ⟨hname, hkept _ hplace⟩
    · rw [entry?_put_of_ne (by simp) heq] at he
      obtain ⟨hlast, hfolder⟩ := h.above folder last he
      exact ⟨hlast, hkept _ hfolder⟩

/-- What is put where a path of names leads keeps the disk a tree. -/
theorem put_located (h : IsTree d) (hnames : ∀ name ∈ p.names, DiskPath.IsName name)
    (hplace : d.locate p = .ok place) (he : d.entry? place ≠ some .directory) :
    IsTree (d.put place e) := by
  obtain ⟨folder, name, rfl, hname, hfolder⟩ := h.exists_folder hnames hplace he
  exact h.put hname hfolder he

theorem ensureDirectory (h : IsTree d) (hnames : ∀ name ∈ p.names, DiskPath.IsName name) :
    IsTree (d.ensureDirectory p).1 := by
  rcases ensureDirectory_cases d p with ⟨made, hmade, h'⟩ | ⟨-, h'⟩ | ⟨fault, h'⟩
  · rw [h']
    obtain ⟨place, hplace, hnone, rfl⟩ := makeDirectory_eq_ok_iff.1 hmade
    exact h.put_located hnames hplace (by simp [hnone])
  · rwa [h']
  · rwa [h']

theorem makeDirectories (h : IsTree d) (hnames : ∀ name ∈ p.names, DiskPath.IsName name) :
    IsTree (d.makeDirectories p).1 :=
  makeAll_induction (Q := fun d d' => IsTree d → IsTree d')
    (fun p => ∀ name ∈ p.names, DiskPath.IsName name)
    (fun _ hp name hn => hp name (List.mem_of_mem_dropLast hn))
    (fun _ _ _ hfirst hsecond hd => hsecond (hfirst hd))
    (fun _ _ hp hd => ensureDirectory hd hp) _ d p hnames h

end IsTree

end OperatorConsole.Disk
