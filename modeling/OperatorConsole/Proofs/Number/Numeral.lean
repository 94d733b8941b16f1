import Mathlib.Data.List.TakeWhile
import Mathlib.Data.Nat.Digits.Defs
import OperatorConsole.Number.Numeral
import OperatorConsole.Proofs.Text.Strip

/-!
Whole numbers there and back. The decimal text of a number is read as that number, as long as it has
no more digits than numbers are read from; a longer one is refused for its length alone.
-/
namespace OperatorConsole.Numeral

variable {c : Char} {cs : List Char}

theorem toList_toString_nat (n : Nat) : (toString n).toList = Nat.toDigits 10 n :=
  (congrArg String.toList Nat.toString_eq_ofList_toDigits).trans String.toList_ofList

/-- The decimal digits of a number, with a minus sign in front of those of one below zero. -/
theorem toList_toString (n : Int) : (toString n).toList =
    (if n < 0 then ['-'] else []) ++ Nat.toDigits 10 n.natAbs := by
  cases n with
  | ofNat k =>
    rw [if_neg (by simp), List.nil_append]
    exact toList_toString_nat k
  | negSucc k =>
    have hminus : toString (Int.negSucc k) = "-" ++ toString (k + 1) := rfl
    rw [if_pos (Int.negSucc_lt_zero k), hminus, String.toList_append, toList_toString_nat,
      Int.natAbs_negSucc]
    rfl

/-- A character of such a text. -/
structure IsPlain (c : Char) : Prop where
  plain : plainChar c = c
  noSpace : isSpace c = false

theorem isPlain_of_bounds (hlow : 0x2D ≤ c.toNat) (hhigh : c.toNat ≤ 0x39) : IsPlain c := by
  refine ⟨if_pos (by omega), ?_⟩
  have hspace : c ≠ ' ' := by
    rintro rfl
    exact absurd hlow (by decide)
  have hcontrol : ¬ c.toNat ≤ 0x0D := by omega
  simp [isSpace, hspace, hcontrol]

theorem bounds_of_isDigit (h : c.isDigit = true) : 0x30 ≤ c.toNat ∧ c.toNat ≤ 0x39 := by
  simpa [Char.isDigit, UInt32.le_iff_toNat_le] using h

theorem isPlain_of_mem_toString {n : Int} (hc : c ∈ (toString n).toList) : IsPlain c := by
  rw [toList_toString, List.mem_append] at hc
  rcases hc with hc | hc
  · split_ifs at hc
    · rw [List.mem_singleton.1 hc]
      exact isPlain_of_bounds (by decide) (by decide)
    · simp at hc
  · have hbounds := bounds_of_isDigit (Nat.isDigit_of_mem_toDigits (by decide) (by decide) hc)
    exact isPlain_of_bounds (by omega) hbounds.2

theorem prepare_of_plain (h : ∀ c ∈ cs, IsPlain c) : prepare cs = cs := by
  have hmap : cs.map plainChar = cs := (List.map_congr_left fun c hc => (h c hc).plain).trans
    (List.map_id cs)
  rw [prepare, hmap]
  exact Text.stripBy_eq_self (fun c hc => (h c (List.mem_of_mem_head? hc)).noSpace)
    fun c hc => (h c (List.mem_of_getLast? hc)).noSpace

/-! ### Digits -/

theorem takeSign_of_isDigit (hne : cs ≠ []) (h : ∀ c ∈ cs, c.isDigit = true) :
    takeSign cs = (false, cs) := by
  obtain ⟨c, rest, rfl⟩ := List.exists_cons_of_ne_nil hne
  have hbounds := bounds_of_isDigit (h c (by simp))
  have hminus : c ≠ '-' := by
    rintro rfl
    exact absurd hbounds.1 (by decide)
  have hplus : c ≠ '+' := by
    rintro rfl
    exact absurd hbounds.1 (by decide)
  rw [takeSign.eq_3 _ (by simp [hminus]) (by simp [hplus])]

theorem takeSign_toString (n : Int) :
    takeSign (toString n).toList = (decide (n < 0), Nat.toDigits 10 n.natAbs) := by
  rw [toList_toString]
  by_cases hneg : n < 0
  · simp [hneg, takeSign]
  · have hdigit : ∀ c ∈ Nat.toDigits 10 n.natAbs, c.isDigit = true := fun c hc =>
      Nat.isDigit_of_mem_toDigits (by decide) (by decide) hc
    simp [hneg, takeSign_of_isDigit Nat.toDigits_ne_nil hdigit]

theorem evenlySpaced_of_not_mem : ∀ {cs : List Char} (afterDigit : Bool), '_' ∉ cs →
    evenlySpaced afterDigit cs = (afterDigit || !cs.isEmpty)
  | [], afterDigit, _ => by simp [evenlySpaced]
  | c :: cs, afterDigit, h => by
    have hc : (c == '_') = false := by simpa using fun e : c = '_' => h (by simp [e])
    rw [evenlySpaced, if_neg (by simp [hc]), evenlySpaced_of_not_mem true fun hm => h (by simp [hm])]
    simp

/-- The number has no more digits than numbers are read from. -/
def IsShort (n : Int) : Prop := (Nat.toDigits 10 n.natAbs).length ≤ digitLimit

theorem natOf_toDigits (n : Nat) : natOf (Nat.toDigits 10 n) = n :=
  Nat.ofDigitChars_ten_toDigits

/-- What is read of a number is told by the count of its digits. -/
theorem readWhole_toString (n : Int) : readWhole (toString n).toList =
    if digitLimit < (Nat.toDigits 10 n.natAbs).length then
      .error (.tooLong (Nat.toDigits 10 n.natAbs).length)
    else .ok n := by
  have hdigit : ∀ c ∈ Nat.toDigits 10 n.natAbs, c.isDigit = true := fun c hc =>
    Nat.isDigit_of_mem_toDigits (by decide) (by decide) hc
  have hsign : takeSign (prepare (toString n).toList) =
      (decide (n < 0), Nat.toDigits 10 n.natAbs) := by
    rw [prepare_of_plain fun c hc => isPlain_of_mem_toString hc, takeSign_toString]
  have hunderscore : '_' ∉ Nat.toDigits 10 n.natAbs := fun h => absurd (hdigit _ h) (by decide)
  have hrun : (Nat.toDigits 10 n.natAbs).takeWhile (fun c => c.isDigit || c == '_') =
      Nat.toDigits 10 n.natAbs := List.takeWhile_eq_self_iff.2 fun c hc => by simp [hdigit c hc]
  have hkept : (Nat.toDigits 10 n.natAbs).filter (· != '_') = Nat.toDigits 10 n.natAbs :=
    List.filter_eq_self.2 fun c hc => by simpa using fun e : c = '_' => hunderscore (e ▸ hc)
  have hspaced : evenlySpaced false (Nat.toDigits 10 n.natAbs) = true := by
    rw [evenlySpaced_of_not_mem false hunderscore]
    simp [Nat.toDigits_ne_nil]
  rw [readWhole, hsign]
  dsimp only
  rw [hrun, hkept, hspaced, natOf_toDigits]
  have hvalue : (if decide (n < 0) = true then -(n.natAbs : Int) else n.natAbs) = n := by
    split_ifs with hneg <;> simp only [decide_eq_true_eq] at hneg <;> omega
  rw [if_neg (by simp), if_neg (c := (_ != _) = true) (by simp), hvalue]

theorem isShort_iff {n : Int} : IsShort n ↔ n.natAbs < 10 ^ digitLimit :=
  Nat.length_toDigits_le_iff (by decide) (by decide)

/-- A number is read from its text, or it is so long that it is far away from zero. -/
theorem readWhole_toString_cases (n : Int) : readWhole (toString n).toList = .ok n ∨
    2 ^ 63 ≤ n.natAbs ∧ ∃ digits, readWhole (toString n).toList = .error (.tooLong digits) := by
  rw [readWhole_toString]
  split_ifs with hlong
  · have hpower : 10 ^ digitLimit ≤ n.natAbs := Nat.le_of_not_lt fun h => by
      have hshort := isShort_iff.2 h
      rw [IsShort] at hshort
      omega
    have hbound : 2 ^ 63 ≤ 10 ^ digitLimit := calc
      2 ^ 63 ≤ 10 ^ 19 := by norm_num
      _ ≤ 10 ^ digitLimit := Nat.pow_le_pow_right (by decide) (by decide)
    exact .inr ⟨hbound.trans hpower, _, rfl⟩
  · exact .inl rfl

end OperatorConsole.Numeral
