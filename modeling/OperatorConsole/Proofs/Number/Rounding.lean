import OperatorConsole.Proofs.Number.Format

/-!
Rounding to a floating point format. A quotient is measured in units of the last bit that the format keeps of
it and goes to the nearest whole number of them, the even one of two; this is the nearest number of the
format. From halfway between the greatest number and the next power of two on it goes to infinity instead.
-/
namespace OperatorConsole

variable {f : BinaryFormat} {m : ℕ} {E : ℤ} {x : ℚ}

/-! ### Quotients -/

namespace Binary

open BinaryFormat

/-- A number with a sign. -/
def signed (negative : Bool) (x : ℚ) : ℚ := if negative then -x else x

/-- The value of a finite number. -/
def value : Binary → ℚ
  | .finite negative m e => signed negative (m * 2 ^ e)
  | _ => 0

theorem abs_signed (negative : Bool) (x : ℚ) : |signed negative x| = |x| := by
  cases negative
  · rfl
  · exact abs_neg x

variable {num den : ℕ}

theorem scale_spec (n : ℕ) (e : ℤ) :
    0 < (scale n e).2 ∧ ((scale n e).1 : ℚ) / (scale n e).2 = n * 2 ^ e := by
  rw [scale]
  split_ifs with he
  · obtain ⟨k, rfl⟩ := Int.eq_ofNat_of_zero_le he
    simp
  · obtain ⟨k, hk⟩ : ∃ k : ℕ, -e = k := ⟨(-e).toNat, by omega⟩
    obtain rfl : e = -k := by omega
    simp [div_eq_mul_inv]

/-- The nearest whole number is no more than a half away, and even if it is just a half. -/
theorem nearestEven_spec (num : ℕ) (hden : 0 < den) :
    |(num : ℚ) / den - nearestEven num den| ≤ 1 / 2 ∧
      (|(num : ℚ) / den - nearestEven num den| = 1 / 2 → Even (nearestEven num den)) := by
  have hpos : (0 : ℚ) < den := by exact_mod_cast hden
  obtain ⟨δ, hδ⟩ : ∃ δ : ℚ, δ = (num % den : ℕ) / den := ⟨_, rfl⟩
  have hquotient : (num : ℚ) / den - (num / den : ℕ) = δ := by
    have hcast : (num : ℚ) = den * (num / den : ℕ) + (num % den : ℕ) := by
      exact_mod_cast (Nat.div_add_mod num den).symm
    rw [hδ, eq_div_iff hpos.ne', sub_mul, div_mul_cancel₀ _ hpos.ne']
    linarith
  have hnonneg : 0 ≤ δ := by rw [hδ]; positivity
  have hhalf : δ = 1 / 2 ↔ 2 * (num % den) = den := by
    rw [hδ, div_eq_div_iff hpos.ne' two_ne_zero, mul_comm, one_mul]
    norm_cast
  have hmore : 1 / 2 < δ ↔ den < 2 * (num % den) := by
    rw [hδ, div_lt_div_iff₀ two_pos hpos, mul_comm _ (2 : ℚ), one_mul]
    norm_cast
  have hless : δ < 1 := by
    rw [hδ, div_lt_one hpos]
    exact_mod_cast Nat.mod_lt num hden
  simp only [nearestEven, Bool.or_eq_true, decide_eq_true_eq, Bool.and_eq_true, beq_iff_eq, ← hmore,
    ← hhalf]
  split_ifs with hup
  · have hle : 1 / 2 ≤ δ := hup.elim le_of_lt fun h => h.1.ge
    have hgap : |(num : ℚ) / den - (num / den + 1 : ℕ)| = 1 - δ := by
      rw [Nat.cast_succ, ← sub_sub, hquotient, abs_of_neg (by linarith)]
      ring
    rw [hgap]
    refine ⟨by linarith, fun h => ?_⟩
    have hodd := (hup.resolve_left (by linarith)).2
    exact Nat.even_iff.2 (by omega)
  · obtain ⟨hle, heven⟩ := not_or.1 hup
    rw [hquotient, abs_of_nonneg hnonneg]
    refine ⟨not_lt.1 hle, fun h => Nat.even_iff.2 ?_⟩
    have hnot : ¬ num / den % 2 = 1 := fun hodd => heven ⟨h, hodd⟩
    omega

/-- No whole number is closer to `t` than `m`, and where another one is as close, `m` is even. -/
structure IsNearestWhole (t : ℚ) (m : ℕ) : Prop where
  closest : ∀ k : ℕ, |t - m| ≤ |t - k|
  even : ∀ k : ℕ, k ≠ m → |t - k| = |t - m| → Even m

theorem isNearestWhole_nearestEven (num : ℕ) (hden : 0 < den) :
    IsNearestWhole (num / den) (nearestEven num den) := by
  obtain ⟨hle, heven⟩ := nearestEven_spec num hden
  generalize nearestEven num den = m at *
  -- another whole number is one apart at least, so it is a half away at least
  have hfar : ∀ k : ℕ, k ≠ m → 1 - |(num : ℚ) / den - m| ≤ |(num : ℚ) / den - k| := fun k hne => by
    have hapart : (1 : ℤ) ≤ |(k : ℤ) - m| := Int.one_le_abs (sub_ne_zero.2 (by exact_mod_cast hne))
    have hcast : (1 : ℚ) ≤ |(k : ℚ) - m| := by exact_mod_cast hapart
    have htriangle := abs_sub_le (k : ℚ) (num / den) m
    rw [abs_sub_comm (k : ℚ) (num / den)] at htriangle
    linarith
  refine ⟨fun k => ?_, fun k hne htie => heven ?_⟩
  · rcases eq_or_ne k m with rfl | hne
    · exact le_rfl
    · linarith [hfar k hne]
  · linarith [hfar k hne]

namespace IsNearestWhole

variable {t : ℚ} {k : ℕ}

theorem le (h : IsNearestWhole t m) (hk : t ≤ k) : m ≤ k := by
  by_contra hlt
  have hcast : (k : ℚ) < m := by exact_mod_cast not_le.1 hlt
  have hclosest := h.closest k
  rw [abs_of_nonpos (by linarith), abs_of_nonpos (by linarith)] at hclosest
  linarith

theorem ge (h : IsNearestWhole t m) (hk : k ≤ t) : k ≤ m := by
  by_contra hlt
  have hcast : (m : ℚ) < k := by exact_mod_cast not_le.1 hlt
  have hclosest := h.closest k
  rw [abs_of_nonneg (by linarith), abs_of_nonneg (by linarith)] at hclosest
  linarith

end IsNearestWhole

theorem floorLog2_spec (hnum : 0 < num) (hden : 0 < den) :
    (2 : ℚ) ^ floorLog2 num den ≤ num / den ∧ (num : ℚ) / den < 2 ^ (floorLog2 num den + 1) := by
  have hpos : (0 : ℚ) < den := by exact_mod_cast hden
  have hbounds : ∀ {n : ℕ}, 0 < n → (2 : ℚ) ^ (n.log2 : ℤ) ≤ n ∧ (n : ℚ) < 2 ^ ((n.log2 : ℤ) + 1) :=
    fun {n} hn => ⟨by exact_mod_cast Nat.log2_self_le hn.ne', by exact_mod_cast Nat.lt_log2_self⟩
  obtain ⟨hlow, hhigh⟩ := hbounds hnum
  obtain ⟨hlow', hhigh'⟩ := hbounds hden
  obtain ⟨guess, hguess⟩ : ∃ guess : ℤ, guess = (num.log2 : ℤ) - den.log2 := ⟨_, rfl⟩
  obtain ⟨hscale, hvalue⟩ := scale_spec 1 guess
  have hscale' : (0 : ℚ) < (scale 1 guess).2 := by exact_mod_cast hscale
  have hcompare : den * (scale 1 guess).1 ≤ num * (scale 1 guess).2 ↔ (2 : ℚ) ^ guess ≤ num / den := by
    rw [Nat.cast_one, one_mul] at hvalue
    rw [← hvalue, div_le_div_iff₀ hscale' hpos, mul_comm (_ : ℚ) (den : ℚ)]
    norm_cast
  have hunfold : floorLog2 num den =
      if den * (scale 1 guess).1 ≤ num * (scale 1 guess).2 then guess else guess - 1 := by
    rw [hguess]
    rfl
  rw [hunfold]
  split_ifs with h
  · refine ⟨hcompare.1 h, ?_⟩
    rw [div_lt_iff₀ hpos]
    calc (num : ℚ) < 2 ^ ((num.log2 : ℤ) + 1) := hhigh
      _ = 2 ^ (guess + 1) * 2 ^ (den.log2 : ℤ) := by
        rw [← zpow_add₀ two_ne_zero]
        congr 1
        omega
      _ ≤ 2 ^ (guess + 1) * den := by gcongr
  · rw [hcompare, not_le] at h
    rw [sub_add_cancel]
    refine ⟨?_, h⟩
    rw [le_div_iff₀ hpos]
    calc (2 : ℚ) ^ (guess - 1) * den ≤ 2 ^ (guess - 1) * 2 ^ ((den.log2 : ℤ) + 1) := by gcongr
      _ = 2 ^ (num.log2 : ℤ) := by
        rw [← zpow_add₀ two_ne_zero]
        congr 1
        omega
      _ ≤ num := hlow

/-! ### Rounding -/

/-- The power of two of the last bit that the format keeps of a number. -/
structure IsPlace (f : BinaryFormat) (x : ℚ) (E : ℤ) : Prop where
  low : f.minExponent ≤ E
  below : x < 2 ^ f.precision * 2 ^ E
  full : 2 ^ (f.precision - 1) * 2 ^ E ≤ x ∨ E = f.minExponent

theorem isPlace_lastPlace (hf : f.IsProper) (hnum : 0 < num) (hden : 0 < den) :
    IsPlace f (num / den) (lastPlace f num den) := by
  obtain ⟨hlow, hhigh⟩ := floorLog2_spec hnum hden
  obtain ⟨k, hk⟩ : ∃ k : ℕ, f.precision = k + 1 := ⟨f.precision - 1, by have := hf.precision; omega⟩
  have hplace : lastPlace f num den = max f.minExponent (floorLog2 num den - k) := by
    rw [lastPlace, hk]
    push_cast
    ring_nf
  generalize floorLog2 num den = p at *
  rw [hplace]
  refine ⟨le_max_left _ _, hhigh.trans_le ?_, ?_⟩
  · rw [hk, ← zpow_natCast, ← zpow_add₀ two_ne_zero]
    refine zpow_le_zpow_right₀ (by norm_num) ?_
    have hle := le_max_right f.minExponent (p - k)
    push_cast
    omega
  · rcases le_total (p - k) f.minExponent with h | h
    · exact .inr (max_eq_left h)
    · refine .inl ?_
      rw [max_eq_right h, hk, Nat.add_sub_cancel, ← zpow_natCast, ← zpow_add₀ two_ne_zero]
      convert hlow using 2
      omega

namespace IsPlace

variable (hf : f.IsProper) (hplace : IsPlace f x E) (hm : IsNearestWhole (x / 2 ^ E) m)
include hplace hm

theorem le_full : m ≤ 2 ^ f.precision := by
  refine hm.le ?_
  rw [div_le_iff₀ (by positivity)]
  exact_mod_cast hplace.below.le

theorem full_or : 2 ^ (f.precision - 1) ≤ m ∨ E = f.minExponent := by
  refine hplace.full.imp_left fun hfull => hm.ge ?_
  rw [le_div_iff₀ (by positivity)]
  exact_mod_cast hfull

include hf

/-- The nearest multiple is the nearest number of the format, if the format has it. -/
theorem isNearest (hx : 0 ≤ x) (hholds : f.Holds (m * 2 ^ E))
    (heven : Even m → f.IsEven (m * 2 ^ E)) : f.IsNearest x (m * 2 ^ E) := by
  have hpower : (0 : ℚ) < 2 ^ E := by positivity
  have hscale : ∀ k : ℕ, |x - k * 2 ^ E| = |x / 2 ^ E - k| * 2 ^ E := fun k => by
    rw [← abs_of_pos hpower, ← abs_mul, abs_of_pos hpower, sub_mul, div_mul_cancel₀ _ hpower.ne']
  have hclosest : ∀ k : ℕ, |x - m * 2 ^ E| ≤ |x - k * 2 ^ E| := fun k => by
    rw [hscale, hscale]
    exact mul_le_mul_of_nonneg_right (hm.closest k) hpower.le
  -- what is no multiple of the last place is farther away than one of the multiples
  have hcases : ∀ b, f.Holds b → (∃ k : ℕ, b = k * 2 ^ E) ∨ |x - m * 2 ^ E| < |x - b| := by
    intro b hb
    rcases le_or_gt 0 b with hpos | hneg
    · obtain ⟨n, e, hform, rfl⟩ := hb.form hpos
      refine (hform.multiple_or_lt hf E).imp id fun ⟨hlow, hless⟩ => ?_
      have hfull := hplace.full.resolve_right hlow.ne'
      have hnear := hclosest (2 ^ (f.precision - 1))
      push_cast at hnear
      rw [abs_of_nonneg (a := x - 2 ^ (f.precision - 1) * 2 ^ E) (by linarith)] at hnear
      rw [abs_of_pos (a := x - n * 2 ^ e) (by linarith)]
      linarith
    · have hzero := hclosest 0
      rw [Nat.cast_zero, zero_mul, sub_zero, abs_of_nonneg hx] at hzero
      rw [abs_of_pos (a := x - b) (by linarith)]
      exact .inr (by linarith)
  refine ⟨hholds, fun b hb => ?_, fun b hb hne htie => heven ?_⟩
  · rcases hcases b hb with ⟨k, rfl⟩ | hless
    · exact hclosest k
    · exact hless.le
  · rcases hcases b hb with ⟨k, rfl⟩ | hless
    · refine hm.even k (by rintro rfl; exact hne rfl) ?_
      rw [hscale, hscale] at htie
      exact mul_right_cancel₀ hpower.ne' htie
    · exact absurd htie hless.ne'

/-- A number that goes to a multiple with all bits of the greatest power is at the limit. -/
theorem limit_le (h : f.maxExponent < E ∨ E = f.maxExponent ∧ m = 2 ^ f.precision) : f.limit ≤ x := by
  have hpower : (2 : ℚ) ^ f.precision = 2 * 2 ^ (f.precision - 1) := by
    exact_mod_cast two_pow_precision hf
  rw [limit]
  rcases h with hhigh | ⟨rfl, rfl⟩
  · have horder := hf.order
    have hfull := hplace.full.resolve_right (by omega)
    calc (2 ^ f.precision - 1 / 2) * (2 : ℚ) ^ f.maxExponent
        ≤ 2 ^ f.precision * 2 ^ f.maxExponent := by gcongr; linarith
      _ = 2 ^ (f.precision - 1) * 2 ^ (f.maxExponent + 1) := by rw [hpower, two_zpow_succ]; ring
      _ ≤ 2 ^ (f.precision - 1) * 2 ^ E := by
        gcongr
        · norm_num
        · omega
      _ ≤ x := hfull
  · rw [← le_div_iff₀ (by positivity)]
    have hbelow : x / 2 ^ f.maxExponent < 2 ^ f.precision := by
      rw [div_lt_iff₀ (by positivity)]
      exact hplace.below
    generalize x / 2 ^ f.maxExponent = t at *
    have hnear := hm.closest (2 ^ f.precision - 1)
    have hge : ((2 ^ f.precision - 1 : ℕ) : ℚ) ≤ t := by
      by_contra hlt
      have hle := hm.le (not_le.1 hlt).le
      have := Nat.two_pow_pos f.precision
      omega
    rw [Nat.cast_pred (Nat.two_pow_pos _)] at hge hnear
    push_cast at hge hnear
    rw [abs_of_nonpos (by linarith), abs_of_nonneg (by linarith)] at hnear
    linarith

/-- A number that goes to another multiple is below the limit. -/
theorem lt_limit (h : E < f.maxExponent ∨ E = f.maxExponent ∧ m < 2 ^ f.precision) : x < f.limit := by
  have hpower : (2 : ℚ) ^ f.precision = 2 * 2 ^ (f.precision - 1) := by
    exact_mod_cast two_pow_precision hf
  rw [limit]
  rcases h with hless | ⟨rfl, hsmall⟩
  · have hone : (1 : ℚ) ≤ 2 ^ (f.precision - 1) := one_le_pow₀ (by norm_num)
    calc x < 2 ^ f.precision * 2 ^ E := hplace.below
      _ = 2 ^ (f.precision - 1) * 2 ^ (E + 1) := by rw [hpower, two_zpow_succ]; ring
      _ ≤ 2 ^ (f.precision - 1) * 2 ^ f.maxExponent := by
        gcongr
        · norm_num
        · omega
      _ ≤ (2 ^ f.precision - 1 / 2) * 2 ^ f.maxExponent := by
        gcongr
        linarith
  · rw [← div_lt_iff₀ (by positivity)]
    have hbelow : x / 2 ^ f.maxExponent < 2 ^ f.precision := by
      rw [div_lt_iff₀ (by positivity)]
      exact hplace.below
    generalize x / 2 ^ f.maxExponent = t at *
    by_contra hge
    -- then the greatest number and the next power of two are as close, and the greatest number is odd
    have hle : (m : ℚ) ≤ 2 ^ f.precision - 1 := by
      have hcast : (m : ℚ) + 1 ≤ 2 ^ f.precision := by exact_mod_cast hsmall
      linarith
    have hnear := hm.closest (2 ^ f.precision)
    push_cast at hnear
    rw [abs_of_nonneg (by linarith), abs_of_neg (by linarith)] at hnear
    have hodd : Even m := by
      refine hm.even (2 ^ f.precision) hsmall.ne' ?_
      push_cast
      rw [abs_of_neg (by linarith), abs_of_nonneg (by linarith)]
      linarith
    have htop : (m : ℚ) + 1 = 2 ^ f.precision := by linarith
    have htop : m + 1 = 2 * 2 ^ (f.precision - 1) := by
      rw [← two_pow_precision hf]
      exact_mod_cast htop
    have := Nat.even_iff.1 hodd
    omega

end IsPlace

/-- A significand with one bit more than the format has gives it to the exponent. -/
def carried (f : BinaryFormat) (m : ℕ) (E : ℤ) : ℕ × ℤ :=
  if m = 2 ^ f.precision then (2 ^ (f.precision - 1), E + 1) else (m, E)

/-- What a multiple of the last place becomes. -/
structure Carries (f : BinaryFormat) (m : ℕ) (E : ℤ) (m' : ℕ) (E' : ℤ) : Prop where
  form : E' ≤ f.maxExponent → f.IsForm m' E'
  value : (m' : ℚ) * 2 ^ E' = m * 2 ^ E
  even : Even m → Even m'
  high : f.maxExponent < E' → f.maxExponent < E ∨ E = f.maxExponent ∧ m = 2 ^ f.precision
  low : E' ≤ f.maxExponent → E < f.maxExponent ∨ E = f.maxExponent ∧ m < 2 ^ f.precision

theorem carries_carried (hf : f.IsProper) (hlow : f.minExponent ≤ E) (hle : m ≤ 2 ^ f.precision)
    (hfull : 2 ^ (f.precision - 1) ≤ m ∨ E = f.minExponent) :
    Carries f m E (carried f m E).1 (carried f m E).2 := by
  have hpower := two_pow_precision hf
  have hpos := Nat.two_pow_pos (f.precision - 1)
  rw [carried]
  split_ifs with hm
  · refine ⟨fun hhigh => ⟨?_, ?_, hhigh, .inl le_rfl⟩, ?_, fun _ => ?_, ?_, ?_⟩
    · dsimp only
      omega
    · dsimp only
      omega
    · rw [two_zpow_succ, hm, hpower]
      push_cast
      ring
    · have hprecision := hf.precision
      exact (Nat.even_pow' (by omega)).2 even_two
    · dsimp only
      omega
    · dsimp only
      omega
  · refine ⟨fun hhigh => ⟨lt_of_le_of_ne hle hm, hlow, hhigh, hfull⟩, rfl, id, ?_, ?_⟩
    · exact .inl
    · dsimp only
      omega

theorem round_eq (f : BinaryFormat) (negative : Bool) (hnum : num ≠ 0) :
    round f negative num den =
      let E := lastPlace f num den
      let kept := carried f (nearestEven (num * (scale 1 E).2) (den * (scale 1 E).1)) E
      if kept.2 ≤ f.maxExponent then .finite negative kept.1 kept.2 else .infinite negative := by
  rw [round, if_neg hnum]
  rfl

end Binary

namespace BinaryFormat

open Binary

/-- What becomes of a number in a format: it goes to the nearest number that the format has, or it is so far away
from zero that it goes to infinity. -/
inductive Rounds (f : BinaryFormat) (x : ℚ) : Binary → Prop where
  | finite {negative : Bool} {m : ℕ} {e : ℤ} (form : f.IsForm m e) (below : |x| < f.limit)
      (nearest : f.IsNearest x (value (.finite negative m e))) : Rounds f x (.finite negative m e)
  | infinite (beyond : f.limit ≤ |x|) : Rounds f x (.infinite (decide (x < 0)))

/-- What is closer to zero than half the least number goes to zero. -/
theorem rounds_tiny (hf : f.IsProper) (negative : Bool) (hx : 2 * |x| < 2 ^ f.minExponent) :
    f.Rounds x (.finite negative 0 f.minExponent) := by
  have hform : f.IsForm 0 f.minExponent := ⟨Nat.two_pow_pos _, le_rfl, hf.order, .inr rfl⟩
  have hvalue : value (.finite negative 0 f.minExponent) = 0 := by cases negative <;> simp [value, signed]
  have hleast : f.Holds (2 ^ f.minExponent) := by
    simpa using holds_mul (m := 1) hf (Nat.one_lt_two_pow (by have := hf.precision; omega)) le_rfl hf.order
  have hfar : ∀ b, f.Holds b → b ≠ 0 → |x| < |x - b| := by
    rintro b ⟨m, e, hform, hb⟩ hne
    have hm : 1 ≤ m := Nat.one_le_iff_ne_zero.2 fun hm => hne (by simpa [hm] using hb)
    have hge : (2 : ℚ) ^ f.minExponent ≤ |b| := calc
      (2 : ℚ) ^ f.minExponent ≤ 2 ^ e := zpow_le_zpow_right₀ (by norm_num) hform.low
      _ ≤ m * 2 ^ e := le_mul_of_one_le_left (by positivity) (by exact_mod_cast hm)
      _ = |b| := hb.symm
    have htriangle := abs_sub_abs_le_abs_sub b x
    rw [abs_sub_comm b x] at htriangle
    linarith
  refine .finite hform ?_ ?_
  · have hlimit := hleast.lt_limit
    rw [abs_of_pos (by positivity)] at hlimit
    linarith [abs_nonneg x]
  · rw [hvalue]
    refine ⟨holds_zero hf, fun b hb => ?_, fun b hb hne htie => ?_⟩
    · rw [sub_zero]
      rcases eq_or_ne b 0 with rfl | hne
      · simp
      · exact (hfar b hb hne).le
    · rw [sub_zero] at htie
      exact absurd htie (hfar b hb hne).ne'

/-- Zero goes to zero. -/
theorem rounds_zero (hf : f.IsProper) (negative : Bool) : f.Rounds 0 (.finite negative 0 f.minExponent) :=
  rounds_tiny hf negative (by rw [abs_zero, mul_zero]; positivity)

/-- Rounding a quotient gives what becomes of it. -/
theorem rounds_round (hf : f.IsProper) (negative : Bool) (num : ℕ) {den : ℕ} (hden : 0 < den) :
    f.Rounds (signed negative (num / den)) (Binary.round f negative num den) := by
  rcases Nat.eq_zero_or_pos num with rfl | hnum
  · rw [Binary.round, if_pos rfl]
    have hzero : signed negative ((0 : ℕ) / den) = 0 := by cases negative <;> simp [signed]
    rw [hzero]
    exact rounds_zero hf negative
  obtain ⟨x, hx⟩ : ∃ x : ℚ, x = num / den := ⟨_, rfl⟩
  have hpos : 0 < x := by rw [hx]; positivity
  have habs : |signed negative x| = x := by rw [abs_signed, abs_of_pos hpos]
  have hplace := isPlace_lastPlace hf hnum hden
  rw [round_eq f negative hnum.ne']
  dsimp only
  generalize lastPlace f num den = E at *
  obtain ⟨hdown, hvalue⟩ := scale_spec 1 E
  have hup : 0 < (scale 1 E).1 := by
    have hpower : (0 : ℚ) < (scale 1 E).1 / (scale 1 E).2 := by rw [hvalue]; positivity
    exact_mod_cast (div_pos_iff_of_pos_right (by exact_mod_cast hdown)).1 hpower
  have hm := isNearestWhole_nearestEven (num * (scale 1 E).2) (Nat.mul_pos hden hup)
  have hquotient : ((num * (scale 1 E).2 : ℕ) : ℚ) / (den * (scale 1 E).1 : ℕ) = x / 2 ^ E := by
    rw [Nat.cast_one, one_mul] at hvalue
    rw [hx, ← hvalue]
    push_cast
    rw [div_div_div_eq]
  rw [hquotient] at hm
  rw [← hx] at hplace ⊢
  generalize nearestEven (num * (scale 1 E).2) (den * (scale 1 E).1) = m at *
  have hcarries := carries_carried hf hplace.low (hplace.le_full hm) (hplace.full_or hm)
  generalize carried f m E = kept at *
  obtain ⟨m', E'⟩ := kept
  dsimp only at hcarries ⊢
  split_ifs with hhigh
  · have hform := hcarries.form hhigh
    have hnearest := hplace.isNearest hf hm hpos.le (by rw [← hcarries.value]; exact hform.holds)
      fun heven => ⟨m', E', hform, by rw [hcarries.value, abs_of_nonneg (by positivity)], hcarries.even heven⟩
    refine .finite hform ?_ ?_
    · rw [habs]
      exact hplace.lt_limit hf hm (hcarries.low hhigh)
    · rw [value, hcarries.value]
      cases negative
      · exact hnearest
      · exact hnearest.neg
  · have hsign : negative = decide (signed negative x < 0) := by
      cases negative
      · simp [signed, hpos.le]
      · simp [signed, hpos]
    have hbeyond : f.limit ≤ |signed negative x| := by
      rw [habs]
      exact hplace.limit_le hf hm (hcarries.high (not_le.1 hhigh))
    have hinfinite := Rounds.infinite hbeyond
    rwa [← hsign] at hinfinite

/-- What a number of one format becomes in another. -/
theorem rounds_convert (hf : f.IsProper) (negative : Bool) (m : ℕ) (e : ℤ) :
    f.Rounds (value (.finite negative m e)) (convert f (.finite negative m e)) := by
  obtain ⟨hden, hvalue⟩ := scale_spec m e
  have hrounds := rounds_round hf negative (scale m e).1 hden
  rw [hvalue] at hrounds
  exact hrounds

/-- A number that the format has stays the same. -/
theorem Rounds.value_eq {b : Binary} (h : f.Rounds x b) (hx : f.Holds x) : b.isFinite = true ∧ b.value = x := by
  cases h with
  | finite form below nearest => exact ⟨rfl, nearest.eq_of_holds hx⟩
  | infinite beyond => exact absurd hx.lt_limit beyond.not_gt

end BinaryFormat

end OperatorConsole
