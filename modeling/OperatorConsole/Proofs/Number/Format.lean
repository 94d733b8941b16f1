import Mathlib.Algebra.Field.Rat
import Mathlib.Algebra.Order.Field.Power
import Mathlib.Algebra.Order.Field.Rat
import Mathlib.Tactic.GCongr
import Mathlib.Tactic.Linarith
import Mathlib.Tactic.NormNum
import Mathlib.Tactic.Positivity
import Mathlib.Tactic.Ring
import OperatorConsole.Number.Binary

/-!
The numbers of a floating point format. Each is a multiple of any power of two that is not too great, or it is
less than all numbers with that power for their last bit. So after each number there is a next one, and the
middle of the two is a number of every format with one bit more. The nearest number to another one is such
that no number of the format is closer and, where one is as close, it has the even significand.
-/
namespace OperatorConsole

variable {f g : BinaryFormat} {m n : ℕ} {e E : ℤ} {x r b : ℚ}

namespace BinaryFormat

/-! ### The numbers of a format -/

/-- A significand and an exponent as a format has them: with all bits, unless the exponent is the least. -/
structure IsForm (f : BinaryFormat) (m : ℕ) (e : ℤ) : Prop where
  small : m < 2 ^ f.precision
  low : f.minExponent ≤ e
  high : e ≤ f.maxExponent
  full : 2 ^ (f.precision - 1) ≤ m ∨ e = f.minExponent

/-- The format has a number. -/
def Holds (f : BinaryFormat) (x : ℚ) : Prop := ∃ m e, f.IsForm m e ∧ |x| = m * 2 ^ e

/-- The format has a number, and its significand is even. -/
def IsEven (f : BinaryFormat) (x : ℚ) : Prop := ∃ m e, f.IsForm m e ∧ |x| = m * 2 ^ e ∧ Even m

/-- No number of the format is closer to `x` than `r`, and where another one is as close, `r` is the even one. -/
structure IsNearest (f : BinaryFormat) (x r : ℚ) : Prop where
  holds : f.Holds r
  closest : ∀ b, f.Holds b → |x - r| ≤ |x - b|
  even : ∀ b, f.Holds b → b ≠ r → |x - b| = |x - r| → f.IsEven r

/-- From where on numbers go to infinity. -/
def limit (f : BinaryFormat) : ℚ := (2 ^ f.precision - 1 / 2) * 2 ^ f.maxExponent

/-- A format that has numbers, among them two with an even significand. -/
structure IsProper (f : BinaryFormat) : Prop where
  precision : 1 < f.precision
  order : f.minExponent ≤ f.maxExponent

theorem two_pow_precision (hf : f.IsProper) : 2 ^ f.precision = 2 * 2 ^ (f.precision - 1) := by
  rw [← pow_succ', Nat.sub_add_cancel (by have := hf.precision; omega)]

theorem two_zpow_succ (e : ℤ) : (2 : ℚ) ^ (e + 1) = 2 * 2 ^ e := by
  rw [zpow_add₀ two_ne_zero, zpow_one, mul_comm]

theorem two_zpow_pred (e : ℤ) : (2 : ℚ) ^ e = 2 * 2 ^ (e - 1) := by
  rw [← two_zpow_succ, sub_add_cancel]

theorem holds_neg : f.Holds (-x) ↔ f.Holds x := by
  simp only [Holds, abs_neg]

theorem isEven_neg : f.IsEven (-x) ↔ f.IsEven x := by
  simp only [IsEven, abs_neg]

theorem holds_abs : f.Holds |x| ↔ f.Holds x := by
  simp only [Holds, abs_abs]

theorem IsForm.holds (h : f.IsForm m e) : f.Holds (m * 2 ^ e) :=
  ⟨m, e, h, abs_of_nonneg (by positivity)⟩

/-- A number has a form if its significand is small enough: bits that are missing are taken from the exponent. -/
theorem holds_mul (hf : f.IsProper) (hsmall : m < 2 ^ f.precision) (hlow : f.minExponent ≤ e)
    (hhigh : e ≤ f.maxExponent) : f.Holds (m * 2 ^ e) := by
  obtain ⟨k, rfl⟩ : ∃ k : ℕ, e = f.minExponent + k := ⟨(e - f.minExponent).toNat, by omega⟩
  induction k generalizing m with
  | zero => exact IsForm.holds ⟨hsmall, by simp, by simpa using hhigh, .inr (by simp)⟩
  | succ k ih =>
    by_cases hfull : 2 ^ (f.precision - 1) ≤ m
    · exact IsForm.holds ⟨hsmall, hlow, hhigh, .inl hfull⟩
    · have hdouble : 2 * m < 2 ^ f.precision := by rw [two_pow_precision hf]; omega
      have hholds := ih hdouble (by omega) (by push_cast at hhigh; omega)
      have hshift : ((2 * m : ℕ) : ℚ) * 2 ^ (f.minExponent + k) = m * 2 ^ (f.minExponent + (k + 1 : ℕ)) := by
        rw [Nat.cast_succ, ← add_assoc, two_zpow_succ]
        push_cast
        ring
      rwa [hshift] at hholds

/-- A full significand has the bits of the next power of two. -/
theorem holds_carry (hf : f.IsProper) (hle : m ≤ 2 ^ f.precision) (hlow : f.minExponent ≤ e)
    (hhigh : e ≤ f.maxExponent) (hcarry : m = 2 ^ f.precision → e < f.maxExponent) : f.Holds (m * 2 ^ e) := by
  rcases hle.lt_or_eq with hlt | rfl
  · exact holds_mul hf hlt hlow hhigh
  · have hsmall : 2 ^ (f.precision - 1) < 2 ^ f.precision := by
      rw [two_pow_precision hf]
      have := Nat.two_pow_pos (f.precision - 1)
      omega
    have hholds := holds_mul hf hsmall (e := e + 1) (by omega) (hcarry rfl)
    have hshift : ((2 ^ (f.precision - 1) : ℕ) : ℚ) * 2 ^ (e + 1) = (2 ^ f.precision : ℕ) * 2 ^ e := by
      rw [two_zpow_succ, two_pow_precision hf]
      push_cast
      ring
    rwa [hshift] at hholds

theorem holds_zero (hf : f.IsProper) : f.Holds 0 := by
  simpa using holds_mul (m := 0) hf (Nat.two_pow_pos _) le_rfl hf.order

/-- Either a number of the format is a multiple of a power of two, or it is less than all numbers with this
exponent and all their bits. -/
theorem IsForm.multiple_or_lt (hf : f.IsProper) (h : f.IsForm n e) (E : ℤ) :
    (∃ k : ℕ, (n : ℚ) * 2 ^ e = k * 2 ^ E) ∨
      f.minExponent < E ∧ (n : ℚ) * 2 ^ e < 2 ^ (f.precision - 1) * 2 ^ E := by
  by_cases hE : E ≤ e
  · obtain ⟨k, rfl⟩ : ∃ k : ℕ, e = E + k := ⟨(e - E).toNat, by omega⟩
    refine .inl ⟨n * 2 ^ k, ?_⟩
    rw [zpow_add₀ two_ne_zero, zpow_natCast]
    push_cast
    ring
  · have hlow := h.low
    refine .inr ⟨by omega, ?_⟩
    have hsmall : (n : ℚ) < 2 ^ f.precision := by exact_mod_cast h.small
    have hpower : (2 : ℚ) ^ f.precision = 2 * 2 ^ (f.precision - 1) := by
      exact_mod_cast two_pow_precision hf
    have hpos : (0 : ℚ) < 2 ^ e := by positivity
    calc (n : ℚ) * 2 ^ e < 2 ^ f.precision * 2 ^ e := by gcongr
      _ = 2 ^ (f.precision - 1) * 2 ^ (e + 1) := by rw [hpower, two_zpow_succ]; ring
      _ ≤ 2 ^ (f.precision - 1) * 2 ^ E := by
        gcongr
        · norm_num
        · omega

/-! ### The next number -/

/-- A format with more bits, for smaller numbers too. -/
structure Refines (g f : BinaryFormat) : Prop where
  precision : f.precision < g.precision
  low : g.minExponent < f.minExponent
  high : f.maxExponent ≤ g.maxExponent

/-- The middle of two multiples in a row has one bit more than they have. -/
theorem Refines.holds_middle (hg : g.IsProper) (hgf : g.Refines f) (hsmall : m < 2 ^ f.precision)
    (hlow : f.minExponent ≤ e) (hhigh : e ≤ f.maxExponent) :
    g.Holds ((m * 2 ^ e + (m + 1) * 2 ^ e) / 2) := by
  have hbits : 2 * m + 1 < 2 ^ g.precision := calc
    2 * m + 1 < 2 ^ (f.precision + 1) := by rw [pow_succ]; omega
    _ ≤ 2 ^ g.precision := Nat.pow_le_pow_right (by decide) hgf.precision
  have hlower := hgf.low
  have hhigher := hgf.high
  have hholds := holds_mul hg hbits (e := e - 1) (by omega) (by omega)
  have hmiddle : ((2 * m + 1 : ℕ) : ℚ) * 2 ^ (e - 1) = (m * 2 ^ e + (m + 1) * 2 ^ e) / 2 := by
    rw [two_zpow_pred e]
    push_cast
    ring
  rwa [hmiddle] at hholds

theorem Refines.holds (hg : g.IsProper) (hgf : g.Refines f) (h : f.Holds x) : g.Holds x := by
  obtain ⟨m, e, hform, hx⟩ := h
  have hbits : m < 2 ^ g.precision :=
    hform.small.trans_le (Nat.pow_le_pow_right (by decide) hgf.precision.le)
  rw [← holds_abs, hx]
  exact holds_mul hg hbits (hgf.low.le.trans hform.low) (hform.high.trans hgf.high)

/-- The numbers of a format do not go to infinity. -/
theorem Holds.lt_limit (h : f.Holds x) : |x| < f.limit := by
  obtain ⟨m, e, hform, hx⟩ := h
  have hsmall : (m : ℚ) + 1 ≤ 2 ^ f.precision := by exact_mod_cast hform.small
  have hle : (2 : ℚ) ^ e ≤ 2 ^ f.maxExponent := zpow_le_zpow_right₀ (by norm_num) hform.high
  have hpos : (0 : ℚ) < 2 ^ f.maxExponent := by positivity
  calc |x| = m * 2 ^ e := hx
    _ ≤ m * 2 ^ f.maxExponent := by gcongr
    _ < f.limit := by
      rw [limit]
      gcongr
      linarith

theorem Holds.form (h : f.Holds x) (hx : 0 ≤ x) : ∃ m e, f.IsForm m e ∧ x = m * 2 ^ e := by
  rwa [Holds, abs_of_nonneg hx] at h

theorem IsForm.lt_top (h : f.IsForm m e) : (m : ℚ) * 2 ^ e < 2 ^ f.precision * 2 ^ f.maxExponent := by
  have hsmall : (m : ℚ) < 2 ^ f.precision := by exact_mod_cast h.small
  have hpos : (0 : ℚ) < 2 ^ e := by positivity
  calc (m : ℚ) * 2 ^ e < 2 ^ f.precision * 2 ^ e := by gcongr
    _ ≤ 2 ^ f.precision * 2 ^ f.maxExponent := by
      gcongr
      · norm_num
      · exact h.high

/-- From a number that is not negative upwards to another one. -/
theorem exists_next_up (hf : f.IsProper) (hg : g.IsProper) (hgf : g.Refines f) (hr : f.Holds r)
    (hb : f.Holds b) (hpos : 0 ≤ r) (hlt : r < b) :
    ∃ s, f.Holds s ∧ r < s ∧ s ≤ b ∧ g.Holds ((r + s) / 2) := by
  obtain ⟨m, e, hform, rfl⟩ := hr.form hpos
  obtain ⟨n, e', hform', rfl⟩ := hb.form (hpos.trans hlt.le)
  have hpower : (0 : ℚ) < 2 ^ e := by positivity
  have hnext : ((m : ℚ) + 1) * 2 ^ e ≤ n * 2 ^ e' := by
    rcases hform'.multiple_or_lt hf e with ⟨k, hk⟩ | ⟨hlow, hless⟩
    · rw [hk] at hlt ⊢
      have hmk : m < k := by exact_mod_cast lt_of_mul_lt_mul_right hlt hpower.le
      gcongr
      exact_mod_cast hmk
    · -- with an exponent that is not the least, `r` has all its bits
      have hfull : 2 ^ (f.precision - 1) ≤ m := hform.full.resolve_right (by omega)
      have hle : (2 : ℚ) ^ (f.precision - 1) * 2 ^ e ≤ m * 2 ^ e := by
        gcongr
        exact_mod_cast hfull
      linarith
  have hcarry : m + 1 = 2 ^ f.precision → e < f.maxExponent := by
    intro hm
    refine lt_of_le_of_ne hform.high ?_
    rintro rfl
    have htop := hform'.lt_top
    have hcast : (m : ℚ) + 1 = 2 ^ f.precision := by exact_mod_cast hm
    rw [hcast] at hnext
    linarith
  have hholds := holds_carry hf (m := m + 1) hform.small hform.low hform.high hcarry
  push_cast at hholds
  refine ⟨_, hholds, ?_, hnext, hgf.holds_middle hg hform.small hform.low hform.high⟩
  gcongr
  linarith

/-- A positive number as a multiple of the distance to the number before it. -/
theorem exists_lower_grid (hf : f.IsProper) (hform : f.IsForm m e) (hpos : 0 < m) :
    ∃ (k : ℕ) (E : ℤ), (m : ℚ) * 2 ^ e = (k + 1) * 2 ^ E ∧ k < 2 ^ f.precision ∧ f.minExponent ≤ E ∧
      E ≤ f.maxExponent ∧ (2 ^ (f.precision - 1) ≤ k ∨ E = f.minExponent) := by
  have hlow := hform.low
  have hhigh := hform.high
  have hsmall := hform.small
  have hpower := two_pow_precision hf
  by_cases hgrid : 2 ^ (f.precision - 1) < m ∨ e = f.minExponent
  · refine ⟨m - 1, e, ?_, by omega, hlow, hhigh, ?_⟩
    · rw [Nat.cast_pred hpos, sub_add_cancel]
    · exact hgrid.imp_left Nat.le_sub_one_of_lt
  · -- right below a power of two the grid is twice as fine
    obtain ⟨hm, he⟩ := not_or.1 hgrid
    have hm : m = 2 ^ (f.precision - 1) := le_antisymm (not_lt.1 hm) (hform.full.resolve_right he)
    refine ⟨2 ^ f.precision - 1, e - 1, ?_, by omega, by omega, by omega, .inl (by omega)⟩
    rw [Nat.cast_pred (Nat.two_pow_pos _), sub_add_cancel, hpower, two_zpow_pred e, hm]
    push_cast
    ring

/-- From a positive number downwards to another one that is not negative. -/
theorem exists_next_down (hf : f.IsProper) (hg : g.IsProper) (hgf : g.Refines f) (hr : f.Holds r)
    (hb : f.Holds b) (hpos : 0 ≤ b) (hlt : b < r) :
    ∃ s, f.Holds s ∧ s < r ∧ b ≤ s ∧ g.Holds ((r + s) / 2) := by
  obtain ⟨m, e, hform, rfl⟩ := hr.form (hpos.trans hlt.le)
  obtain ⟨n, e', hform', rfl⟩ := hb.form hpos
  have hm : 0 < m := Nat.pos_of_ne_zero (by rintro rfl; simp at hlt; linarith)
  obtain ⟨k, E, hgrid, hsmall, hlow, hhigh, hfull⟩ := exists_lower_grid hf hform hm
  have hpower : (0 : ℚ) < 2 ^ E := by positivity
  rw [hgrid] at hlt ⊢
  refine ⟨k * 2 ^ E, holds_mul hf hsmall hlow hhigh, ?_, ?_, ?_⟩
  · gcongr
    linarith
  · rcases hform'.multiple_or_lt hf E with ⟨j, hj⟩ | ⟨hlower, hless⟩
    · rw [hj] at hlt ⊢
      have hjk : j < k + 1 := by exact_mod_cast lt_of_mul_lt_mul_right hlt hpower.le
      gcongr
      exact_mod_cast Nat.le_of_lt_succ hjk
    · have hfull : 2 ^ (f.precision - 1) ≤ k := hfull.resolve_right (by omega)
      refine hless.le.trans ?_
      gcongr
      exact_mod_cast hfull
  · rw [add_comm]
    exact hgf.holds_middle hg hsmall hlow hhigh

theorem exists_next_of_lt (hf : f.IsProper) (hg : g.IsProper) (hgf : g.Refines f) (hr : f.Holds r)
    (hb : f.Holds b) (hlt : r < b) : ∃ s, f.Holds s ∧ r < s ∧ s ≤ b ∧ g.Holds ((r + s) / 2) := by
  rcases le_or_gt 0 r with hpos | hneg
  · exact exists_next_up hf hg hgf hr hb hpos hlt
  · -- zero lies between two numbers of different signs
    obtain ⟨c, hc, hcpos, hclt, hcb⟩ : ∃ c, f.Holds c ∧ 0 ≤ c ∧ c < -r ∧ -c ≤ b := by
      rcases le_or_gt 0 b with hb0 | hb0
      · exact ⟨0, holds_zero hf, le_rfl, by linarith, by linarith⟩
      · exact ⟨-b, holds_neg.2 hb, by linarith, by linarith, by linarith⟩
    obtain ⟨s, hs, hlt, hle, hmiddle⟩ := exists_next_down hf hg hgf (holds_neg.2 hr) hc hcpos hclt
    refine ⟨-s, holds_neg.2 hs, by linarith, by linarith, ?_⟩
    have hsame : (r + -s) / 2 = -((-r + s) / 2) := by ring
    rw [hsame]
    exact holds_neg.2 hmiddle

/-! ### Nearest numbers -/

theorem IsNearest.neg (h : f.IsNearest x r) : f.IsNearest (-x) (-r) where
  holds := holds_neg.2 h.holds
  closest b hb := by
    have hclosest := h.closest (-b) (holds_neg.2 hb)
    rw [← abs_neg (-x - -r), ← abs_neg (-x - b)]
    convert hclosest using 2 <;> ring
  even b hb hne htie := by
    rw [isEven_neg]
    refine h.even (-b) (holds_neg.2 hb) (fun he => hne (by rw [← he, neg_neg])) ?_
    rw [← abs_neg (-x - b), ← abs_neg (-x - -r)] at htie
    convert htie using 2 <;> ring

/-- A number that the format has goes to itself. -/
theorem IsNearest.eq_of_holds (h : f.IsNearest x r) (hx : f.Holds x) : r = x := by
  have hclosest := h.closest x hx
  rw [sub_self, abs_zero] at hclosest
  have hzero := abs_nonpos_iff.1 hclosest
  linarith

/-! ### Nearest to the nearest -/

section

variable {y : ℚ} (hf : f.IsProper) (hg : g.IsProper) (hgf : g.Refines f)
include hf hg hgf

/-- Where the nearest number `r` to the nearest one of a finer format is not the nearest to `x`, that one is the
middle of `r` and the next number: it is itself at hand in the finer format, so nothing beyond it goes below it. -/
theorem exists_middle_of_lt (hy : g.IsNearest x y) (hr : f.IsNearest y r) (hb : f.Holds b) (hlt : r < b)
    (hcloser : |x - b| ≤ |x - r|) : ∃ s, f.Holds s ∧ r < s ∧ s ≤ b ∧ y = (r + s) / 2 := by
  obtain ⟨s, hs, hlts, hle, hmiddle⟩ := exists_next_of_lt hf hg hgf hr.holds hb hlt
  have hx : (r + b) / 2 ≤ x := by
    rcases abs_cases (x - b) with h | h <;> rcases abs_cases (x - r) with h' | h' <;> linarith
  have hupper : y ≤ (r + s) / 2 := by
    have hclosest := hr.closest s hs
    rcases abs_cases (y - s) with h | h <;> rcases abs_cases (y - r) with h' | h' <;> linarith
  have hlower : (r + s) / 2 ≤ y := by
    have hclosest := hy.closest _ hmiddle
    rw [abs_of_nonneg (by linarith), abs_of_nonneg (by linarith)] at hclosest
    linarith
  exact ⟨s, hs, hlts, hle, le_antisymm hupper hlower⟩

/-- Only where two numbers of the format are as close to the number in between can another one than `r` be as close
to `x`, and one of the two is then closer if the other one is. -/
theorem exists_tie (hy : g.IsNearest x y) (hr : f.IsNearest y r) (hb : f.Holds b) (hne : b ≠ r)
    (hcloser : |x - b| ≤ |x - r|) :
    ∃ s, f.Holds s ∧ s ≠ r ∧ |y - s| = |y - r| ∧ (|x - b| < |x - r| → |x - s| < |x - r|) := by
  rcases lt_or_gt_of_ne hne with hlt | hlt
  · -- below `r` all is as above `-r`
    have hneg : |-x - -b| ≤ |-x - -r| := by
      rwa [← neg_sub', ← neg_sub', abs_neg, abs_neg]
    obtain ⟨s, hs, hlts, hle, hmiddle⟩ :=
      exists_middle_of_lt hf hg hgf hy.neg hr.neg (holds_neg.2 hb) (neg_lt_neg hlt) hneg
    refine ⟨-s, holds_neg.2 hs, by linarith, ?_, fun hless => ?_⟩
    · rw [abs_of_pos (by linarith), abs_of_neg (by linarith)]
      linarith
    · rcases abs_cases (x - b) with h | h <;> rcases abs_cases (x - r) with h' | h' <;>
        rcases abs_cases (x - -s) with h'' | h'' <;> linarith
  · obtain ⟨s, hs, hlts, hle, hmiddle⟩ := exists_middle_of_lt hf hg hgf hy hr hb hlt hcloser
    refine ⟨s, hs, hlts.ne', ?_, fun hless => ?_⟩
    · rw [abs_of_neg (by linarith), abs_of_pos (by linarith)]
      linarith
    · rcases abs_cases (x - b) with h | h <;> rcases abs_cases (x - r) with h' | h' <;>
        rcases abs_cases (x - s) with h'' | h'' <;> linarith

/-- The nearest number to the nearest one of a finer format is the nearest one, unless the number in between is the
middle of two numbers and the other one of them is closer. -/
theorem isNearest_iff_of_twice (hy : g.IsNearest x y) (hr : f.IsNearest y r) :
    f.IsNearest x r ↔ ¬ ∃ b, f.Holds b ∧ |y - b| = |y - r| ∧ |x - b| < |x - r| := by
  constructor
  · rintro h ⟨b, hb, -, hless⟩
    exact (h.closest b hb).not_gt hless
  · intro h
    refine ⟨hr.holds, fun b hb => ?_, fun b hb hne htie => ?_⟩
    · by_contra hgt
      have hless := not_le.1 hgt
      have hne : b ≠ r := by
        rintro rfl
        exact lt_irrefl _ hless
      obtain ⟨s, hs, -, htie, hcloser⟩ := exists_tie hf hg hgf hy hr hb hne hless.le
      exact h ⟨s, hs, htie, hcloser hless⟩
    · obtain ⟨s, hs, hsr, htie', -⟩ := exists_tie hf hg hgf hy hr hb hne htie.le
      exact hr.even s hs hsr htie'

end

end BinaryFormat

end OperatorConsole
