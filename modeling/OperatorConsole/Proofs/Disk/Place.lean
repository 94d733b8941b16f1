import OperatorConsole.Disk.Store
import OperatorConsole.Proofs.Disk.Path
import OperatorConsole.Proofs.Keyed

/-!
Places on the disk. What is put in a place is found there and changes nothing else. A path leads to
the place that its names spell out, two points taken away with the name before them, whenever every
place on the way is a directory; so more directories make more paths lead somewhere, and none
elsewhere. Below the path of a directory a name leads to a place in it as long as the disk takes the name
and the path is not too long with it.
-/
namespace OperatorConsole.Disk

variable {d d' : Disk} {names others place out : List String} {name path : String} {e : Entry}
  {p : DiskPath} {content : Bytes}

/-! ### Entries -/

theorem lookup_map_put : ∀ l : List (List String × Entry),
    (l.map fun x => if x.1 == names then (names, e) else x).lookup others =
      if others = names then (l.lookup names).map fun _ => e else l.lookup others
  | [] => by simp
  | (key, entry) :: l => by
    have ih := lookup_map_put l
    rw [List.map_cons]
    by_cases hkey : key = names
    · subst hkey
      simp only [beq_self_eq_true, if_true, Keyed.lookup_cons, ih]
      by_cases ho : others = key <;> simp [ho]
    · simp only [beq_iff_eq, hkey, if_false, Keyed.lookup_cons, Ne.symm hkey]
      simp only [beq_iff_eq] at ih
      by_cases ho : others = names
      · subst ho
        simpa [Ne.symm hkey] using ih
      · simp [ho, ih]

/-- Putting an entry in a place changes what is found there, and nothing else. -/
theorem entry?_put (hne : names ≠ []) :
    Disk.entry? (d.put names e) others = if others = names then some e else d.entry? others := by
  unfold entry?
  have hsome := Keyed.isSome_lookup d.entries (k := names)
  by_cases hroot : others.isEmpty = true
  · have ho : others ≠ names := fun h => hne (by simpa [h] using hroot)
    simp [hroot, ho]
  · simp only [hroot, put]
    cases hany : d.entries.any (·.1 == names) with
    | true =>
      rw [hany, Option.isSome_iff_exists] at hsome
      obtain ⟨old, hold⟩ := hsome
      simp only [if_true, Bool.false_eq_true, if_false, lookup_map_put, hold, Option.map_some]
    | false =>
      rw [hany, Option.isSome_eq_false_iff, Option.isNone_iff_eq_none] at hsome
      by_cases ho : others = names
      · subst ho
        simp [List.lookup_append, hsome]
      · simp [List.lookup_append, Keyed.lookup_cons, ho]

theorem entry?_put_self (hne : names ≠ []) : Disk.entry? (d.put names e) names = some e := by
  rw [entry?_put hne, if_pos rfl]

theorem entry?_put_of_ne (hne : names ≠ []) (ho : others ≠ names) :
    Disk.entry? (d.put names e) others = d.entry? others := by
  rw [entry?_put hne, if_neg ho]

@[simp]
theorem entry?_nil : d.entry? [] = some .directory := rfl

theorem ne_nil_of_entry?_eq_none (h : d.entry? names = none) : names ≠ [] := by
  rintro rfl
  simp at h

@[simp]
theorem here_put : (d.put names e).here = d.here := by
  rw [put]
  split <;> rfl

/-! ### Paths -/

/-- Where a name leads from a place. -/
def lead (place : List String) (name : String) : List String :=
  if name == ".." then place.dropLast else place ++ [name]

/-- Where the walk along a path begins. -/
def origin (d : Disk) (p : DiskPath) : List String := if p.isAbsolute then [] else d.here

theorem absolute_eq : d.absolute p = p.names.foldl lead (d.origin p) := rfl

theorem absolute_put : (d.put names e).absolute p = d.absolute p := by
  rw [absolute_eq, absolute_eq, origin, origin, here_put]

@[simp]
theorem walk_nil : d.walk path place [] = .ok place := rfl

theorem walk_cons_eq_ok_iff : d.walk path place (name :: names) = .ok out ↔
    d.entry? place = some .directory ∧ name.utf8ByteSize ≤ nameLimit ∧
      d.walk path (lead place name) names = .ok out := by
  rw [walk, lead]
  cases d.entry? place with
  | none => simp
  | some e =>
    cases e with
    | file content => simp
    | directory =>
      by_cases hlong : nameLimit < name.utf8ByteSize
      · simp [hlong, Nat.not_le.2 hlong]
      · by_cases hup : (name == "..") = true
        · simp [hlong, hup, Nat.not_lt.1 hlong]
        · simp [hlong, hup, Nat.not_lt.1 hlong]

theorem walk_append_eq_ok_iff : ∀ names place : List String,
    d.walk path place (names ++ others) = .ok out ↔
      ∃ mid, d.walk path place names = .ok mid ∧ d.walk path mid others = .ok out
  | [], place => by simp
  | name :: names, place => by
    simp only [List.cons_append, walk_cons_eq_ok_iff, walk_append_eq_ok_iff names]
    constructor
    · rintro ⟨hplace, hname, mid, hmid, hout⟩
      exact ⟨mid, ⟨hplace, hname, hmid⟩, hout⟩
    · rintro ⟨mid, ⟨hplace, hname, hmid⟩, hout⟩
      exact ⟨hplace, hname, mid, hmid, hout⟩

/-- A walk that comes to an end ends where the names lead. -/
theorem foldl_lead_of_walk : ∀ {names place : List String},
    d.walk path place names = .ok out → out = names.foldl lead place
  | [], _, h => (Except.ok.inj h).symm
  | _ :: _, _, h => by
    rw [List.foldl_cons]
    exact foldl_lead_of_walk (walk_cons_eq_ok_iff.1 h).2.2

/-- More directories let more walks come to their ends. The path is only named in reports. -/
theorem walk_mono (hdirs : ∀ place, d.entry? place = some .directory →
    d'.entry? place = some .directory) (path' : String) : ∀ {names place : List String},
    d.walk path place names = .ok out → d'.walk path' place names = .ok out
  | [], _, h => h
  | _ :: _, _, h =>
    have ⟨hplace, hname, hrest⟩ := walk_cons_eq_ok_iff.1 h
    walk_cons_eq_ok_iff.2 ⟨hdirs _ hplace, hname, walk_mono hdirs path' hrest⟩

theorem locate_eq_ok_iff : d.locate p = .ok place ↔
    Char.ofNat 0 ∉ p.text.toList ∧ p.text.utf8ByteSize ≤ pathLimit ∧
      d.walk p.text (d.origin p) p.names = .ok place := by
  rw [locate, origin, String.contains_char_eq]
  by_cases hnul : Char.ofNat 0 ∈ p.text.toList
  · simp [hnul]
  · by_cases hlong : pathLimit < p.text.utf8ByteSize
    · simp [hnul, hlong, Nat.not_le.2 hlong]
    · simp [hnul, hlong, Nat.not_lt.1 hlong]

theorem absolute_of_locate (h : d.locate p = .ok place) : d.absolute p = place :=
  (foldl_lead_of_walk (locate_eq_ok_iff.1 h).2.2).symm

theorem locate_mono (hdirs : ∀ place, d.entry? place = some .directory →
    d'.entry? place = some .directory) (hhere : d'.here = d.here) (h : d.locate p = .ok place) :
    d'.locate p = .ok place := by
  obtain ⟨hnul, hlong, hwalk⟩ := locate_eq_ok_iff.1 h
  have horigin : d'.origin p = d.origin p := by rw [origin, hhere, origin]
  exact locate_eq_ok_iff.2 ⟨hnul, hlong, horigin ▸ walk_mono hdirs _ hwalk⟩

theorem find_eq_ok_iff : d.find p = .ok e ↔
    ∃ place, d.locate p = .ok place ∧ d.entry? place = some e := by
  rw [find]
  cases hplace : d.locate p with
  | error fault => simp [bind, Except.bind]
  | ok place =>
    cases he : d.entry? place with
    | none => simp [bind, Except.bind, he, throw, throwThe, MonadExceptOf.throw]
    | some entry => simp [bind, Except.bind, he, pure, Except.pure]

theorem read_eq_ok_iff : d.read p = .ok content ↔
    ∃ place, d.locate p = .ok place ∧ d.entry? place = some (.file content) := by
  rw [← find_eq_ok_iff, read]
  cases d.find p with
  | error fault => simp [bind, Except.bind]
  | ok entry =>
    cases entry <;> simp [bind, Except.bind, pure, Except.pure, throw, throwThe, MonadExceptOf.throw]

theorem write_eq_ok_iff : d.write p content = .ok d' ↔ ∃ place, d.locate p = .ok place ∧
    d.entry? place ≠ some .directory ∧ d' = d.put place (.file content) := by
  rw [write]
  cases d.locate p with
  | error fault => simp [bind, Except.bind]
  | ok place =>
    cases he : d.entry? place with
    | none => simp [bind, Except.bind, he, pure, Except.pure, eq_comm]
    | some entry =>
      cases entry <;>
        simp [bind, Except.bind, he, pure, Except.pure, throw, throwThe, MonadExceptOf.throw, eq_comm]

theorem makeDirectory_eq_ok_iff : d.makeDirectory p = .ok d' ↔ ∃ place, d.locate p = .ok place ∧
    d.entry? place = none ∧ d' = d.put place .directory := by
  rw [makeDirectory]
  cases d.locate p with
  | error fault => simp [bind, Except.bind]
  | ok place =>
    cases he : d.entry? place with
    | none => simp [bind, Except.bind, he, pure, Except.pure, eq_comm]
    | some entry => simp [bind, Except.bind, he, throw, throwThe, MonadExceptOf.throw]

end OperatorConsole.Disk

/-! ### One name more -/

namespace OperatorConsole

namespace DiskPath

variable {p : DiskPath} {c : Char}

/-- The characters of a path are those of its names, besides slashes and a point. -/
theorem mem_names_of_mem_text (hc : c ∈ p.text.toList) :
    c = '/' ∨ c = '.' ∨ ∃ name ∈ p.names, c ∈ name.toList := by
  rw [text] at hc
  split at hc
  · exact .inr (.inl (by simpa using hc))
  · rw [String.toList_append, List.mem_append, String.toList_ofList, String.toList_intercalate] at hc
    rcases hc with hc | hc
    · exact .inl (List.eq_of_mem_replicate hc)
    · rcases Text.mem_intercalate hc with hslash | ⟨part, hpart, hmem⟩
      · exact .inl hslash
      · obtain ⟨name, hname, rfl⟩ := List.mem_map.1 hpart
        exact .inr (.inr ⟨name, hname, hmem⟩)

end DiskPath

namespace Disk

variable {d : Disk} {p : DiskPath} {folder place : List String} {name : String}

/-- The path with one name more. -/
def below (p : DiskPath) (name : String) : DiskPath := ⟨p.slashes, p.names ++ [name]⟩

theorem below_injective {other : String} (h : below p name = below p other) : name = other :=
  List.singleton_inj.1 (List.append_cancel_left (congrArg DiskPath.names h))

/-- The disk takes the name at the end of the path: neither is too long, and the name has no character
that no name has. -/
structure Takes (p : DiskPath) (name : String) : Prop where
  no_nul : Char.ofNat 0 ∉ name.toList
  short : name.utf8ByteSize ≤ nameLimit
  path : (below p name).text.utf8ByteSize ≤ pathLimit

/-- Below a directory every name that the disk takes leads somewhere, and no other does. -/
theorem locate_below_iff (hfolder : d.locate p = .ok folder)
    (hdirectory : d.entry? folder = some .directory) :
    d.locate (below p name) = .ok place ↔ Takes p name ∧ place = lead folder name := by
  obtain ⟨hnul, -, hwalk⟩ := locate_eq_ok_iff.1 hfolder
  have hgoes : d.walk (below p name).text (d.origin (below p name)) (below p name).names = .ok place ↔
      name.utf8ByteSize ≤ nameLimit ∧ place = lead folder name := by
    have hstart : d.walk (below p name).text (d.origin (below p name)) p.names = .ok folder :=
      walk_mono (fun _ => id) _ hwalk
    have hnames : (below p name).names = p.names ++ [name] := rfl
    rw [hnames, walk_append_eq_ok_iff]
    constructor
    · rintro ⟨mid, hmid, hlast⟩
      obtain rfl := Except.ok.inj (hmid.symm.trans hstart)
      obtain ⟨-, hshort, hend⟩ := walk_cons_eq_ok_iff.1 hlast
      exact ⟨hshort, (Except.ok.inj hend).symm⟩
    · rintro ⟨hshort, rfl⟩
      exact ⟨folder, hstart, walk_cons_eq_ok_iff.2 ⟨hdirectory, hshort, rfl⟩⟩
  have hchars : Char.ofNat 0 ∉ (below p name).text.toList ↔ Char.ofNat 0 ∉ name.toList := by
    refine not_congr ⟨fun hc => ?_, fun hc => DiskPath.mem_text (by simp [below]) hc⟩
    rcases DiskPath.mem_names_of_mem_text hc with h | h | ⟨other, hother, hmem⟩
    · exact absurd h (by decide)
    · exact absurd h (by decide)
    · rcases List.mem_append.1 hother with hother | hother
      · exact absurd (DiskPath.mem_text hother hmem) hnul
      · rwa [← List.mem_singleton.1 hother]
  rw [locate_eq_ok_iff, hgoes, hchars]
  constructor
  · rintro ⟨hnone, hpath, hshort, hplace⟩
    exact ⟨⟨hnone, hshort, hpath⟩, hplace⟩
  · rintro ⟨htakes, hplace⟩
    exact ⟨htakes.no_nul, htakes.path, htakes.short, hplace⟩

/-! ### Lengths

The path from the root to where an absolute path leads is no longer than that path, since two points only take
names away. A relative path says nothing of how deep the current directory is, so there the path from the root
may be too long although the relative one is not. -/

theorem nameBytes_dropLast_le (place : List String) :
    DiskPath.nameBytes place.dropLast ≤ DiskPath.nameBytes place := by
  rcases List.eq_nil_or_concat place with rfl | ⟨names, last, rfl⟩
  · exact Nat.le_refl _
  · simp [DiskPath.nameBytes]

theorem nameBytes_lead_le (place : List String) (name : String) :
    DiskPath.nameBytes (lead place name) ≤ DiskPath.nameBytes place + (name.utf8ByteSize + 1) := by
  unfold lead
  split
  · exact Nat.le_trans (nameBytes_dropLast_le place) (Nat.le_add_right _ _)
  · simp [DiskPath.nameBytes]

theorem nameBytes_foldl_lead_le : ∀ names place : List String,
    DiskPath.nameBytes (names.foldl lead place) ≤
      DiskPath.nameBytes place + DiskPath.nameBytes names
  | [], place => Nat.le_add_right _ _
  | name :: names, place => by
    have hrest := nameBytes_foldl_lead_le names (lead place name)
    have hfirst := nameBytes_lead_le place name
    have hcons : DiskPath.nameBytes (name :: names) =
        name.utf8ByteSize + 1 + DiskPath.nameBytes names := by simp [DiskPath.nameBytes]
    rw [List.foldl_cons]
    omega

/-- Where an absolute path leads is reached from the root by a path that is short enough too. -/
theorem utf8ByteSize_root_le (h : p.isAbsolute = true) (hplace : d.locate p = .ok place) :
    (DiskPath.text ⟨1, place⟩).utf8ByteSize ≤ pathLimit := by
  obtain ⟨-, hshort, hwalk⟩ := locate_eq_ok_iff.1 hplace
  have hend := foldl_lead_of_walk hwalk
  have horigin : d.origin p = [] := if_pos h
  have hle := nameBytes_foldl_lead_le p.names (d.origin p)
  rw [← hend, horigin] at hle
  have hnil : DiskPath.nameBytes [] = 0 := rfl
  have hroot := DiskPath.utf8ByteSize_text (p := ⟨1, place⟩) rfl
  have htext := DiskPath.utf8ByteSize_text h
  have hs : p.slashes ≠ 0 := by simpa [DiskPath.isAbsolute] using h
  simp only at hroot
  omega

end Disk

end OperatorConsole
