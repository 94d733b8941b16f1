import OperatorConsole.Argument.Scalar
import OperatorConsole.Proofs.Number.Real

/-!
Arguments in single precision. The number that a text denotes goes to the nearest one in double precision first,
and that one to the nearest one in single precision. Main result: this is the nearest one to the number itself,
unless the one in between is the middle of two numbers and the other one of them is closer to the number.
-/
namespace OperatorConsole

open BinaryFormat

/-- The text denotes the decimal number, margins apart. -/
def DenotesReal (text : String) (x : ℚ) : Prop :=
  Numeral.WritesReal (Text.stripBy Numeral.isMargin text.toList) x

/-- What becomes of a number as an argument of single precision: `y` is what double precision makes of it. -/
inductive SingleOf (x : ℚ) : Except ScalarFault Value → Prop where
  /-- What goes to infinity in double precision stays there. -/
  | infinite (beyond : binary64.limit ≤ |x|) : SingleOf x (.ok (.float (.infinite (decide (x < 0)))))
  | tooLarge {y : ℚ} (below : |x| < binary64.limit) (double : binary64.IsNearest x y)
      (beyond : binary32.limit ≤ |y|) : SingleOf x (.error .tooLarge)
  | single {y : ℚ} {r : Binary} (below : |x| < binary64.limit) (double : binary64.IsNearest x y)
      (below' : |y| < binary32.limit) (isFinite : r.isFinite = true) (single : binary32.IsNearest y r.value)
      (nearest : binary32.IsNearest x r.value ↔
        ¬ ∃ b, binary32.Holds b ∧ |y - b| = |y - r.value| ∧ |x - b| < |x - r.value|) :
      SingleOf x (.ok (.float r))

/-- A text is read as an argument of single precision: it gives what becomes of the number that it denotes, and no
other text gives a finite number. -/
structure ReadsSingle (text : String) : Prop where
  value : ∀ x, DenotesReal text x → SingleOf x (readScalar .float32 text)
  denotes : ∀ r, readScalar .float32 text = .ok (.float r) → r.isFinite = true → ∃ x, DenotesReal text x

variable {cs : List Char} {x : ℚ}

theorem binary32_isProper : binary32.IsProper := ⟨by decide, by decide⟩

theorem binary64_refines : binary64.Refines binary32 := ⟨by decide, by decide, by decide⟩

/-- A double is made a single one, which is given as a double again. -/
def narrowed (x : Binary) : Except ScalarFault Binary :=
  match x, x.convert binary32 with
  | .finite .., .infinite _ => .error .tooLarge
  | _, y => .ok (y.convert binary64)

/-- What is given for the single one of a finite double. -/
def widened : Binary → Except ScalarFault Binary
  | .infinite _ => .error .tooLarge
  | y => .ok (y.convert binary64)

theorem narrowed_finite (negative : Bool) (m : ℕ) (e : ℤ) :
    narrowed (.finite negative m e) = widened ((Binary.finite negative m e).convert binary32) := by
  rw [narrowed.eq_def]
  generalize (Binary.finite negative m e).convert binary32 = c
  cases c <;> rfl

theorem readScalar_float32 (text : String) : readScalar .float32 text =
    match Numeral.readBinary text.toList with
    | some b => (narrowed b).map .float
    | none => .error .notReal := by
  have hread : readScalar .float32 text = .float <$> readFloat32 text.toList := rfl
  rw [hread, readFloat32, readFloat64]
  cases Numeral.readBinary text.toList with
  | none => rfl
  | some b =>
    have hnarrowed : (do
        let x ← Except.ok b
        match x, x.convert binary32 with
        | .finite .., .infinite _ => throw ScalarFault.tooLarge
        | _, y => return y.convert binary64) = narrowed b := rfl
    exact congrArg _ hnarrowed

theorem singleOf_narrowed {b : Binary} (h : binary64.Rounds x b) : SingleOf x ((narrowed b).map .float) := by
  cases h with
  | infinite beyond => exact .infinite beyond
  | @finite negative m e form below nearest =>
    have hsingle := rounds_convert binary32_isProper negative m e
    obtain ⟨y, hy⟩ : ∃ y, y = (Binary.finite negative m e).value := ⟨_, rfl⟩
    rw [← hy] at hsingle nearest
    rw [narrowed_finite]
    generalize (Binary.finite negative m e).convert binary32 = c at hsingle
    cases hsingle with
    | infinite beyond => exact .tooLarge below nearest beyond
    | @finite negative' m' e' form' below' nearest' =>
      have hdouble := rounds_convert Numeral.binary64_isProper negative' m' e'
      have hholds := binary64_refines.holds Numeral.binary64_isProper nearest'.holds
      obtain ⟨hfinite, hvalue⟩ := hdouble.value_eq hholds
      have hboth := isNearest_iff_of_twice binary32_isProper Numeral.binary64_isProper binary64_refines
        nearest nearest'
      rw [← hvalue] at nearest' hboth
      exact .single below nearest below' hfinite nearest' hboth

/-- Nothing finite comes of an infinity or of what is no number. -/
theorem isFinite_of_narrowed {b r : Binary} (h : narrowed b = .ok r) (hr : r.isFinite = true) :
    b.isFinite = true := by
  cases b with
  | finite => rfl
  | infinite | nan =>
    rw [← Except.ok.inj h] at hr
    cases hr

/-- Every text is read as an argument of single precision by way of double precision. -/
theorem reads_single (text : String) : ReadsSingle text where
  value x hx := by
    obtain ⟨b, hb, hrounds⟩ := Numeral.exists_readBinary hx
    rw [readScalar_float32, hb]
    exact singleOf_narrowed hrounds
  denotes r hr hfinite := by
    rw [readScalar_float32] at hr
    cases hb : Numeral.readBinary text.toList with
    | none =>
      rw [hb] at hr
      cases hr
    | some b =>
      rw [hb] at hr
      cases hnarrowed : narrowed b with
      | error fault =>
        simp [hnarrowed, Except.map] at hr
      | ok c =>
        simp only [hnarrowed, Except.map, Except.ok.injEq, Value.float.injEq] at hr
        rw [← hr] at hfinite
        exact Numeral.exists_writesReal hb (isFinite_of_narrowed hnarrowed hfinite)

/-- A text of a number right above the middle of two numbers of single precision. -/
def aboveMiddle : String := "16777217.000000001"

theorem denotesReal_aboveMiddle : DenotesReal aboveMiddle (16777217000000001 / 10 ^ 9) := by
  have hdigits := Numeral.digitRun_digitChar [1, 6, 7, 7, 7, 2, 1, 7] (by decide) (by decide)
  have hfraction := Numeral.digitRun_digitChar [0, 0, 0, 0, 0, 0, 0, 0, 1] (by decide) (by decide)
  have hwrites := Numeral.WritesReal.mk .none (.mixed hdigits hfraction) .none
  have htext : Text.stripBy Numeral.isMargin aboveMiddle.toList =
      [] ++ ([1, 6, 7, 7, 7, 2, 1, 7].map Text.digitChar ++
        '.' :: [0, 0, 0, 0, 0, 0, 0, 0, 1].map Text.digitChar) ++ [] := by decide +kernel
  rw [DenotesReal, htext]
  convert hwrites using 1
  norm_num [Binary.signed, Nat.ofDigits]

/-- Double precision takes the number to the middle itself, single precision then takes the middle to the even number
below it, although the number above it is closer. -/
theorem middle_goes_down : ∃ x r, DenotesReal aboveMiddle x ∧
    readScalar .float32 aboveMiddle = .ok (.float r) ∧ r.isFinite = true ∧ r.value = 16777216 ∧
    binary32.Holds 16777218 ∧ |x - 16777218| < |x - r.value| ∧ ¬ binary32.IsNearest x r.value := by
  obtain ⟨r, hr⟩ : ∃ r, r = Binary.finite false (2 ^ 52) (-28) := ⟨_, rfl⟩
  have hread : readScalar .float32 aboveMiddle = .ok (.float r) := by
    rw [hr]
    rfl
  have hvalue : r.value = 16777216 := by norm_num [hr, Binary.value, Binary.signed]
  have hholds : binary32.Holds 16777218 :=
    ⟨8388609, 1, ⟨by decide, by decide, by decide, .inl (by decide)⟩, by norm_num⟩
  have hcloser : |(16777217000000001 / 10 ^ 9 : ℚ) - 16777218| < |16777217000000001 / 10 ^ 9 - r.value| := by
    rw [hvalue, abs_of_neg (by norm_num), abs_of_pos (by norm_num)]
    norm_num
  exact ⟨_, r, denotesReal_aboveMiddle, hread, by rw [hr]; rfl, hvalue, hholds, hcloser,
    fun hnearest => (hnearest.closest _ hholds).not_gt hcloser⟩

end OperatorConsole
