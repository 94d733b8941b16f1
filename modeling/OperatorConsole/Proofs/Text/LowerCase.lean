import OperatorConsole.Text.LowerCase

/-!
Small letters of ASCII texts. An ASCII character has one small letter wherever it stands, and that is
ASCII, so small letters of an ASCII text are taken character by character.
-/
namespace OperatorConsole.Text

variable {c : Char} {cs : List Char}

/-- What holds of the characters below 128 one by one holds of every ASCII character. -/
theorem forall_ascii {P : Char → Prop} (h : ∀ n < 0x80, P (Char.ofNat n)) (hc : c.toNat < 0x80) : P c := by
  have hofNat := h c.toNat hc
  rwa [Char.ofNat_toNat] at hofNat

/-- Letters and digits of ASCII stand from the digit zero to the last small letter. -/
theorem bounds_of_isAlphanum (h : c.isAlphanum = true) : 0x30 ≤ c.toNat ∧ c.toNat ≤ 0x7A := by
  change ((decide (65 ≤ c.val ∧ c.val ≤ 90) || decide (97 ≤ c.val) && decide (c.val ≤ 122)) ||
    decide (48 ≤ c.val) && decide (c.val ≤ 57)) = true at h
  simp only [UInt32.le_iff_toNat_le, Bool.or_eq_true, Bool.and_eq_true, decide_eq_true_eq] at h
  change ((65 ≤ c.toNat ∧ c.toNat ≤ 90) ∨ (97 ≤ c.toNat ∧ c.toNat ≤ 122)) ∨
    (48 ≤ c.toNat ∧ c.toNat ≤ 57) at h
  omega

theorem lowerChar_of_ascii (h : c.toNat < 0x80) :
    ∀ final, lowerChar final c = [lowerAscii c] :=
  forall_ascii (P := fun c => ∀ final, lowerChar final c = [lowerAscii c]) (by decide +kernel) h

theorem toNat_lowerAscii_lt (h : c.toNat < 0x80) : (lowerAscii c).toNat < 0x80 :=
  forall_ascii (P := fun c => (lowerAscii c).toNat < 0x80) (by decide +kernel) h

theorem lowerFrom_of_ascii : ∀ {cs : List Char} (inWord : Bool), (∀ c ∈ cs, c.toNat < 0x80) →
    lowerFrom inWord cs = cs.map lowerAscii
  | [], _, _ => rfl
  | c :: cs, inWord, h => by
    rw [lowerFrom, lowerChar_of_ascii (h c List.mem_cons_self),
      lowerFrom_of_ascii _ fun d hd => h d (List.mem_cons_of_mem c hd)]
    rfl

theorem lower_of_ascii (h : ∀ c ∈ cs, c.toNat < 0x80) : lower cs = cs.map lowerAscii :=
  lowerFrom_of_ascii false h

/-- ASCII characters in front of a text go to their small letters whatever follows. -/
theorem exists_lowerFrom_append : ∀ {front : List Char} (inWord : Bool) (cs : List Char),
    (∀ c ∈ front, c.toNat < 0x80) →
    ∃ inWord', lowerFrom inWord (front ++ cs) = front.map lowerAscii ++ lowerFrom inWord' cs
  | [], inWord, cs, _ => ⟨inWord, rfl⟩
  | c :: front, inWord, cs, h => by
    obtain ⟨inWord', hrest⟩ := exists_lowerFrom_append
      (if ignorableRanges.has c then inWord else casedRanges.has c) cs
      fun d hd => h d (List.mem_cons_of_mem c hd)
    refine ⟨inWord', ?_⟩
    rw [List.cons_append, lowerFrom, lowerChar_of_ascii (h c List.mem_cons_self), hrest]
    rfl

/-- Every character has small letters. -/
theorem lowerChar_ne_nil (final : Bool) (c : Char) : lowerChar final c ≠ [] := by
  rw [lowerChar]
  split
  · exact List.cons_ne_nil _ _
  · split
    · exact List.cons_ne_nil _ _
    · cases lowerRuns.find? (·.has c) <;> exact List.cons_ne_nil _ _

theorem lower_eq_nil_iff : lower cs = [] ↔ cs = [] := by
  cases cs with
  | nil => exact iff_of_true rfl rfl
  | cons c cs => simp [lower, lowerFrom, lowerChar_ne_nil]

end OperatorConsole.Text
