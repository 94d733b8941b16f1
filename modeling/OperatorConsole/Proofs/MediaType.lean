import OperatorConsole.MediaType
import OperatorConsole.Proofs.Text.LowerCase

/-!
Media types. Every type has an extension, which is the same in any letter case, and only the subtype of a
type that the table does not know can bring a slash into it. A type that is shown as text is so in small
letters, but not the other way round.
-/
namespace OperatorConsole.MediaType

variable {type type' : String}

/-! ### Extensions -/

/-- A type in small letters, without white space at its ends. -/
def normal (type : String) : List Char := Text.lower (Text.strip type.toList)

/-- The type is one of the table. -/
def IsKnown (type : String) : Prop := (extensions.lookup (String.ofList (normal type))).isSome = true

theorem extensions_plain : ∀ entry ∈ extensions, entry.2 ≠ "" ∧ '/' ∉ entry.2.toList := by
  decide +kernel

/-- The extension is told by the type in small letters. -/
theorem extensionFor_eq (type : String) : extensionFor type =
    match extensions.lookup (String.ofList (normal type)) with
    | some extension => extension
    | none => if (subtype (normal type)).isEmpty then "bin" else String.ofList (subtype (normal type)) :=
  rfl

/-- A known type has an extension of the table, any other has its subtype for one if there is any. -/
theorem extensionFor_cases (type : String) :
    (IsKnown type ∧ ∃ entry ∈ extensions, extensionFor type = entry.2) ∨
    (¬ IsKnown type ∧ subtype (normal type) = [] ∧ extensionFor type = "bin") ∨
    (¬ IsKnown type ∧ subtype (normal type) ≠ [] ∧
      extensionFor type = String.ofList (subtype (normal type))) := by
  rw [IsKnown, extensionFor_eq]
  cases hlookup : extensions.lookup (String.ofList (normal type)) with
  | some found =>
    obtain ⟨front, back, hlist, -⟩ := List.lookup_eq_some_iff.1 hlookup
    exact .inl ⟨rfl, (String.ofList (normal type), found), by simp [hlist], rfl⟩
  | none =>
    by_cases hsubtype : subtype (normal type) = []
    · exact .inr (.inl ⟨by simp, hsubtype, by simp [hsubtype]⟩)
    · exact .inr (.inr ⟨by simp, hsubtype, by simp [hsubtype]⟩)

theorem extensionFor_ne_empty (type : String) : extensionFor type ≠ "" := by
  rcases extensionFor_cases type with ⟨-, entry, hentry, h⟩ | ⟨-, -, h⟩ | ⟨-, hsubtype, h⟩
  · rw [h]
    exact (extensions_plain entry hentry).1
  · rw [h]
    decide
  · rw [h]
    simpa using hsubtype

/-- An extension has a slash just where the subtype of an unknown type has one between other characters. -/
theorem slash_mem_extensionFor_iff : '/' ∈ (extensionFor type).toList ↔
    ¬ IsKnown type ∧ '/' ∈ subtype (normal type) := by
  rcases extensionFor_cases type with ⟨hknown, entry, hentry, h⟩ | ⟨-, hsubtype, h⟩ | ⟨hnot, -, h⟩
  · rw [h]
    exact iff_of_false (extensions_plain entry hentry).2 fun hnot => hnot.1 hknown
  · rw [h, hsubtype]
    simp
  · rw [h, String.toList_ofList]
    exact (and_iff_right hnot).symm

/-! ### Letter case -/

/-- A type in small letters. -/
def small (type : String) : String := String.ofList (Text.lower type.toList)

theorem extensionFor_congr (h : normal type = normal type') : extensionFor type = extensionFor type' := by
  rw [extensionFor_eq, extensionFor_eq, h]

theorem isText_iff : isText type = true ↔ ∃ start ∈ textTypes, start.toList <+: type.toList := by
  simp [isText, List.any_eq_true]

/-- How the types begin that are shown as text is written in small ASCII letters. -/
theorem textTypes_small : ∀ start ∈ textTypes,
    (start.toList.all fun c => c.toNat < 0x80) = true ∧
      start.toList.map Text.lowerAscii = start.toList := by
  decide +kernel

theorem isText_small (h : isText type = true) : isText (small type) = true := by
  rw [isText_iff] at h ⊢
  obtain ⟨start, hstart, rest, hrest⟩ := h
  obtain ⟨hall, hsmall⟩ := textTypes_small start hstart
  have hascii : ∀ c ∈ start.toList, c.toNat < 0x80 := by simpa using hall
  obtain ⟨inWord, hlower⟩ := Text.exists_lowerFrom_append false rest hascii
  refine ⟨start, hstart, Text.lowerFrom inWord rest, ?_⟩
  rw [small, String.toList_ofList, Text.lower, ← hrest, hlower, hsmall]

end OperatorConsole.MediaType
