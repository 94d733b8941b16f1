import OperatorConsole.Proofs.Disk.Place

/-!
Making directories. However far the making of a directory and of those above it comes, every entry
stays and no file is new; and when nothing went wrong, the path leads to a directory.
-/
namespace OperatorConsole.Disk

/-- A disk on which nothing changed but that directories were made. -/
structure Grown (d d' : Disk) : Prop where
  here : d'.here = d.here
  kept : ∀ names e, d.entry? names = some e → d'.entry? names = some e
  made : ∀ names content, d'.entry? names = some (.file content) →
    d.entry? names = some (.file content)

variable {d d' d'' : Disk} {place : List String} {p : DiskPath}

namespace Grown

theorem refl (d : Disk) : Grown d d := ⟨rfl, fun _ _ => id, fun _ _ => id⟩

theorem trans (h : Grown d d') (h' : Grown d' d'') : Grown d d'' where
  here := h'.here.trans h.here
  kept names e he := h'.kept names e (h.kept names e he)
  made names content hf := h.made names content (h'.made names content hf)

theorem put (h : d.entry? place = none) : Grown d (d.put place .directory) := by
  have hne : place ≠ [] := ne_nil_of_entry?_eq_none h
  refine ⟨here_put, fun names e he => ?_, fun names content hf => ?_⟩
  · rwa [entry?_put_of_ne hne]
    rintro rfl
    simp [h] at he
  · rw [entry?_put hne] at hf
    split at hf
    · simp at hf
    · exact hf

/-- The files are the same. -/
theorem file_iff (h : Grown d d') {content : Bytes} :
    d'.entry? place = some (.file content) ↔ d.entry? place = some (.file content) :=
  ⟨h.made place content, h.kept place _⟩

theorem locate (h : Grown d d') (hp : d.locate p = .ok place) : d'.locate p = .ok place :=
  locate_mono (fun names => h.kept names _) h.here hp

end Grown

/-! ### One directory -/

theorem grown_of_makeDirectory (h : d.makeDirectory p = .ok d') : Grown d d' := by
  obtain ⟨place, -, hnone, rfl⟩ := makeDirectory_eq_ok_iff.1 h
  exact .put hnone

theorem find_of_makeDirectory (h : d.makeDirectory p = .ok d') : d'.find p = .ok .directory := by
  have hgrown := grown_of_makeDirectory h
  obtain ⟨place, hplace, hnone, rfl⟩ := makeDirectory_eq_ok_iff.1 h
  have hne : place ≠ [] := ne_nil_of_entry?_eq_none hnone
  exact find_eq_ok_iff.2 ⟨place, hgrown.locate hplace, entry?_put_self hne⟩

theorem isDirectory_iff : d.isDirectory p = true ↔ d.find p = .ok .directory := by
  rw [isDirectory]
  split
  · next h => simp [h]
  · next h => simpa using h

/-- What comes of making sure of a directory: one is made, or one is there, or something is wrong. -/
theorem ensureDirectory_cases (d : Disk) (p : DiskPath) :
    (∃ made, d.makeDirectory p = .ok made ∧ d.ensureDirectory p = (made, none)) ∨
    (d.find p = .ok .directory ∧ d.ensureDirectory p = (d, none)) ∨
    ∃ fault, d.ensureDirectory p = (d, some fault) := by
  rw [ensureDirectory]
  split
  · next made h => exact .inl ⟨made, h, rfl⟩
  · exact .inr (.inr ⟨_, rfl⟩)
  · by_cases h : d.isDirectory p = true
    · exact .inr (.inl ⟨isDirectory_iff.1 h, by simp [h]⟩)
    · exact .inr (.inr ⟨_, by simp [h]; rfl⟩)

theorem ensureDirectory_grown (d : Disk) (p : DiskPath) : Grown d (d.ensureDirectory p).1 := by
  rcases ensureDirectory_cases d p with ⟨made, hmade, h⟩ | ⟨-, h⟩ | ⟨fault, h⟩
  · rw [h]
    exact grown_of_makeDirectory hmade
  · rw [h]
    exact .refl d
  · rw [h]
    exact .refl d

theorem ensureDirectory_find (h : (d.ensureDirectory p).2 = none) :
    (d.ensureDirectory p).1.find p = .ok .directory := by
  rcases ensureDirectory_cases d p with ⟨made, hmade, h'⟩ | ⟨hfind, h'⟩ | ⟨fault, h'⟩
  · rw [h']
    exact find_of_makeDirectory hmade
  · rw [h']
    exact hfind
  · rw [h'] at h
    exact absurd h (by simp)

/-! ### A directory and those above it -/

/-- The steps of making a directory and those above it: the directory is tried, and if one above it is
missing, those above are made and it is tried again. -/
theorem makeAll_succ (d : Disk) (p : DiskPath) (depth : Nat) :
    d.makeAll p (depth + 1) = d.ensureDirectory p ∨
    d.makeAll p (depth + 1) =
      let above := (d.ensureDirectory p).1.makeAll p.parent depth
      if above.2 = none then above.1.ensureDirectory p else above := by
  rw [makeAll]
  split
  · next d' path h =>
    refine .inr ?_
    rw [h]
    dsimp only
    split
    · next h' => simp [h']
    · next h' =>
      have hfault : (d'.makeAll p.parent depth).2 ≠ none := fun hn => h' _ (Prod.ext rfl hn)
      simp [hfault]
  · exact .inl rfl

/-- What every single directory keeps is kept by making a directory and those above it, if it holds
for paths of a kind and the path above one is of the kind too. -/
theorem makeAll_induction (ok : DiskPath → Prop) {Q : Disk → Disk → Prop}
    (parent : ∀ p, ok p → ok p.parent) (trans : ∀ d d' d'', Q d d' → Q d' d'' → Q d d'')
    (one : ∀ d p, ok p → Q d (d.ensureDirectory p).1) :
    ∀ (depth : Nat) (d : Disk) (p : DiskPath), ok p → Q d (d.makeAll p depth).1
  | 0, d, p, hp => one d p hp
  | depth + 1, d, p, hp => by
    have habove := trans _ _ _ (one d p hp)
      (makeAll_induction ok parent trans one depth (d.ensureDirectory p).1 p.parent (parent p hp))
    rcases makeAll_succ d p depth with h | h
    · rw [h]
      exact one d p hp
    · rw [h]
      dsimp only
      split
      · exact trans _ _ _ habove (one _ p hp)
      · exact habove

theorem makeDirectories_grown (d : Disk) (p : DiskPath) : Grown d (d.makeDirectories p).1 :=
  makeAll_induction (fun _ => True) (fun _ h => h) (fun _ _ _ => .trans)
    (fun d p _ => ensureDirectory_grown d p) _ d p trivial

theorem makeAll_find : ∀ {depth : Nat} {d : Disk} {p : DiskPath},
    (d.makeAll p depth).2 = none → (d.makeAll p depth).1.find p = .ok .directory
  | 0, d, p, h => ensureDirectory_find h
  | depth + 1, d, p, h => by
    rcases makeAll_succ d p depth with h' | h'
    · rw [h'] at h ⊢
      exact ensureDirectory_find h
    · rw [h'] at h ⊢
      dsimp only at h ⊢
      split at h
      · next hnone =>
        rw [if_pos hnone]
        exact ensureDirectory_find h
      · next hsome => exact absurd h hsome

/-- When directories were made and nothing went wrong, the path leads to one. -/
theorem makeDirectories_find (h : (d.makeDirectories p).2 = none) :
    (d.makeDirectories p).1.find p = .ok .directory :=
  makeAll_find h

/-- A path at which nothing goes wrong at once needs nothing above it. -/
theorem makeDirectories_of_ensureDirectory (h : d.ensureDirectory p = (d', none)) :
    d.makeDirectories p = (d', none) := by
  rw [makeDirectories]
  cases p.names.length with
  | zero => exact h
  | succ depth => rw [makeAll, h]

/-- A directory that can be made at once is all that is made. -/
theorem makeDirectories_of_makeDirectory (h : d.makeDirectory p = .ok d') :
    d.makeDirectories p = (d', none) :=
  makeDirectories_of_ensureDirectory (by rw [ensureDirectory, h])

/-- Nothing is made where a directory is. -/
theorem makeDirectories_of_find (h : d.find p = .ok .directory) :
    d.makeDirectories p = (d, none) := by
  obtain ⟨place, hplace, he⟩ := find_eq_ok_iff.1 h
  have htaken : d.makeDirectory p = .error (.taken p.text) := by
    rw [makeDirectory, hplace]
    simp only [bind, Except.bind, he]
    rfl
  refine makeDirectories_of_ensureDirectory ?_
  rw [ensureDirectory, htaken, isDirectory_iff.2 h]
  rfl

end OperatorConsole.Disk
