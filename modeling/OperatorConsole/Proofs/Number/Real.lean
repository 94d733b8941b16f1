import OperatorConsole.Proofs.Number.Rounding
import OperatorConsole.Proofs.Number.Whole

/-!
The texts that decimal numbers are read from: margins of white space around an optional sign, digits with at
most one point among them, and an optional power of ten. Digits may be of any script, and single underscores
may stand between two of them. What is read of such a text is what rounding to double precision makes of the
number that it denotes.
-/
namespace OperatorConsole.Numeral

/-! ### The texts -/

/-- An optional sign, and whether it is a minus. -/
inductive Sign : List Char → Bool → Prop where
  | none : Sign [] false
  | plus : Sign ['+'] false
  | minus : Sign ['-'] true

/-- Digits with at most one point among them, the values of the digits, and how many stand after the point. -/
inductive Mantissa : List Char → List ℕ → ℕ → Prop where
  | whole {cs : List Char} {vs : List ℕ} (digits : DigitRun cs vs) : Mantissa cs vs 0
  | pointed {cs : List Char} {vs : List ℕ} (digits : DigitRun cs vs) : Mantissa (cs ++ ['.']) vs 0
  | mixed {cs ds : List Char} {vs ws : List ℕ} (digits : DigitRun cs vs) (fraction : DigitRun ds ws) :
      Mantissa (cs ++ '.' :: ds) (vs ++ ws) ws.length
  | fraction {ds : List Char} {ws : List ℕ} (fraction : DigitRun ds ws) : Mantissa ('.' :: ds) ws ws.length

/-- An optional power of ten. -/
inductive Power : List Char → ℤ → Prop where
  | none : Power [] 0
  | written {letter : Char} {sign cs : List Char} {negative : Bool} {vs : List ℕ}
      (isLetter : letter = 'e' ∨ letter = 'E') (signed : Sign sign negative) (digits : DigitRun cs vs) :
      Power (letter :: (sign ++ cs))
        (if negative then -(Nat.ofDigits 10 vs.reverse : ℕ) else (Nat.ofDigits 10 vs.reverse : ℕ))

/-- A text without margins, and the number that it denotes. -/
inductive WritesReal : List Char → ℚ → Prop where
  | mk {sign cs es : List Char} {negative : Bool} {vs : List ℕ} {k : ℕ} {e : ℤ} (signed : Sign sign negative)
      (mantissa : Mantissa cs vs k) (power : Power es e) :
      WritesReal (sign ++ cs ++ es)
        (Binary.signed negative ((Nat.ofDigits 10 vs.reverse : ℕ) * 10 ^ (e - k)))

variable {c : Char} {cs es sign rest plain : List Char} {vs ws : List ℕ} {k : ℕ} {e n : ℤ} {x : ℚ}
  {negative afterDigit : Bool}

/-! ### Underscores -/

theorem go_cons (hc : c ≠ '_') (rest : List Char) : dropUnderscores.go afterDigit (c :: rest) =
    (c :: ·) <$> dropUnderscores.go c.isDigit rest := by
  rw [dropUnderscores.go, if_neg (by simpa using hc)]
  intro _ _ h _
  exact hc h

theorem go_digit {v : ℕ} (hv : v < 10) (rest : List Char) :
    dropUnderscores.go afterDigit (Text.digitChar v :: rest) =
      (Text.digitChar v :: ·) <$> dropUnderscores.go true rest := by
  rw [go_cons (digitChar_ne_underscore hv), isDigit_digitChar hv]

/-- An underscore between two digits is left out. -/
theorem go_underscore {v : ℕ} (hv : v < 10) (rest : List Char) :
    dropUnderscores.go true ('_' :: Text.digitChar v :: rest) =
      dropUnderscores.go afterDigit (Text.digitChar v :: rest) := by
  rw [go_digit hv, dropUnderscores.go, isDigit_digitChar hv]
  rfl

/-- A character that is no digit and no underscore stays. -/
theorem go_other (hc : c ≠ '_') (hdigit : c.isDigit = false) (rest : List Char) :
    dropUnderscores.go afterDigit (c :: rest) = (c :: ·) <$> dropUnderscores.go false rest := by
  rw [go_cons hc, hdigit]

theorem digitValue?_digitChar {v : ℕ} (hv : v < 10) : Text.digitValue? (Text.digitChar v) = some v := by
  have h : ∀ v < 10, Text.digitValue? (Text.digitChar v) = some v := by decide +kernel
  exact h v hv

/-- Digits in ASCII are a run. -/
theorem digitRun_digitChar : ∀ vs : List ℕ, vs ≠ [] → (∀ v ∈ vs, v < 10) →
    DigitRun (vs.map Text.digitChar) vs
  | [v], _, hvs => .last (digitValue?_digitChar (hvs v (by simp)))
  | v :: w :: vs, _, hvs => .next (digitValue?_digitChar (hvs v (by simp)))
      (digitRun_digitChar (w :: vs) (List.cons_ne_nil w vs) fun u hu => hvs u (List.mem_cons_of_mem v hu))

namespace DigitRun

/-- A run begins with a digit. -/
theorem exists_cons (h : DigitRun cs vs) : ∃ v < 10, ∃ tail, cs.map plainChar = Text.digitChar v :: tail := by
  cases h with
  | last digit | next digit _ | spaced digit _ =>
    obtain ⟨hv, hplain⟩ := plainChar_of_digitValue? digit
    rw [List.map_cons, hplain]
    exact ⟨_, hv, _, rfl⟩

/-- Of a run only its digits are left. -/
theorem go_append (h : DigitRun cs vs) : ∀ (afterDigit : Bool) (rest : List Char),
    dropUnderscores.go afterDigit (cs.map plainChar ++ rest) =
      (vs.map Text.digitChar ++ ·) <$> dropUnderscores.go true rest := by
  induction h with
  | last digit =>
    intro afterDigit rest
    obtain ⟨hv, hplain⟩ := plainChar_of_digitValue? digit
    simp [hplain, go_digit hv]
  | next digit _ ih =>
    intro afterDigit rest
    obtain ⟨hv, hplain⟩ := plainChar_of_digitValue? digit
    simp [hplain, go_digit hv, ih, Function.comp_def]
  | @spaced c v cs vs digit hrun ih =>
    intro afterDigit rest
    obtain ⟨hv, hplain⟩ := plainChar_of_digitValue? digit
    obtain ⟨w, hw, tail, htail⟩ := hrun.exists_cons
    have hunderscore : plainChar '_' = '_' := rfl
    have hrest := ih true rest
    rw [htail, List.cons_append] at hrest
    rw [List.map_cons, List.map_cons, hplain, hunderscore, htail, List.cons_append, List.cons_append,
      List.cons_append, go_digit hv, go_underscore hw, hrest]
    simp [Function.comp_def]

end DigitRun

/-! ### Digits around a point -/

/-- Digits in ASCII with at most one point among them. -/
inductive PlainMantissa : List Char → List ℕ → ℕ → Prop where
  | whole {vs : List ℕ} (hne : vs ≠ []) : PlainMantissa (vs.map Text.digitChar) vs 0
  | pointed {vs ws : List ℕ} (hne : vs ++ ws ≠ []) :
      PlainMantissa (vs.map Text.digitChar ++ '.' :: ws.map Text.digitChar) (vs ++ ws) ws.length

theorem DigitRun.ne_nil (h : DigitRun cs vs) : vs ≠ [] := by
  cases h <;> simp

theorem go_point (rest : List Char) :
    dropUnderscores.go afterDigit ('.' :: rest) = ('.' :: ·) <$> dropUnderscores.go false rest :=
  go_other (by decide) (by decide) rest

/-- What is left of digits around a point, whatever follows them. -/
theorem Mantissa.exists_plain (h : Mantissa cs vs k) : ∃ plain, PlainMantissa plain vs k ∧
    ∀ rest, ∃ afterDigit, dropUnderscores.go false (cs.map plainChar ++ rest) =
      (plain ++ ·) <$> dropUnderscores.go afterDigit rest := by
  have hpoint : plainChar '.' = '.' := rfl
  cases h with
  | whole digits => exact ⟨_, .whole digits.ne_nil, fun rest => ⟨true, digits.go_append false rest⟩⟩
  | pointed digits =>
    have hplain := @PlainMantissa.pointed vs [] (by simpa using digits.ne_nil)
    rw [List.append_nil] at hplain
    refine ⟨_, hplain, fun rest => ⟨false, ?_⟩⟩
    simp [hpoint, digits.go_append, go_point, Function.comp_def]
  | mixed digits fraction =>
    refine ⟨_, .pointed (by simp [digits.ne_nil]), fun rest => ⟨true, ?_⟩⟩
    simp [hpoint, digits.go_append, go_point, fraction.go_append, Function.comp_def]
  | fraction fraction =>
    have hplain := @PlainMantissa.pointed [] vs (by simpa using fraction.ne_nil)
    refine ⟨_, hplain, fun rest => ⟨true, ?_⟩⟩
    simp [hpoint, go_point, fraction.go_append, Function.comp_def]

theorem Mantissa.lt_ten (h : Mantissa cs vs k) : ∀ v ∈ vs, v < 10 := by
  cases h with
  | whole digits => exact digits.lt_ten
  | pointed digits => exact digits.lt_ten
  | mixed digits fraction => exact List.forall_mem_append.2 ⟨digits.lt_ten, fraction.lt_ten⟩
  | fraction fraction => exact fraction.lt_ten

/-- A text that does not go on with a digit or a point. -/
def Ends (rest : List Char) : Prop := ∀ c ∈ rest.head?, c.isDigit = false ∧ c ≠ '.'

theorem takeWhile_digits (hvs : ∀ v ∈ vs, v < 10) (hrest : ∀ c ∈ rest.head?, c.isDigit = false) :
    (vs.map Text.digitChar ++ rest).takeWhile Char.isDigit = vs.map Text.digitChar ∧
      (vs.map Text.digitChar ++ rest).dropWhile Char.isDigit = rest := by
  have hdigits : ∀ c ∈ vs.map Text.digitChar, c.isDigit = true := by
    intro c hc
    obtain ⟨v, hv, rfl⟩ := List.mem_map.1 hc
    exact isDigit_digitChar (hvs v hv)
  rw [List.takeWhile_append_of_pos hdigits, List.dropWhile_append_of_pos hdigits]
  cases rest with
  | nil => simp
  | cons c rest =>
    have hc := hrest c rfl
    simp [hc]

/-- The digits of a number and the power of ten that the last one counts are read off. -/
theorem readScientific_plain (h : PlainMantissa plain vs k) (hvs : ∀ v ∈ vs, v < 10) (hrest : Ends rest) :
    readScientific (plain ++ rest) =
      (readExponent rest).map fun e => ⟨vs.map Text.digitChar, e - k⟩ := by
  cases h with
  | whole hne =>
    obtain ⟨htake, hdrop⟩ := takeWhile_digits hvs fun c hc => (hrest c hc).1
    rw [readScientific, htake, hdrop]
    have hpoint : ∀ more, rest ≠ '.' :: more := by
      rintro more rfl
      exact (hrest '.' rfl).2 rfl
    match rest, hpoint with
    | [], _ => simp [hne]
    | c :: rest, hpoint =>
      have hc : c ≠ '.' := by
        rintro rfl
        exact hpoint rest rfl
      simp [hne]
  | @pointed vs ws hne =>
    have hfront : ∀ v ∈ vs, v < 10 := fun v hv => hvs v (List.mem_append_left _ hv)
    have hback : ∀ v ∈ ws, v < 10 := fun v hv => hvs v (List.mem_append_right _ hv)
    have hstop : ∀ c ∈ ('.' :: (ws.map Text.digitChar ++ rest)).head?, c.isDigit = false := by simp
    obtain ⟨htake, hdrop⟩ := takeWhile_digits hfront hstop
    obtain ⟨htake', hdrop'⟩ := takeWhile_digits hback fun c hc => (hrest c hc).1
    rw [readScientific, List.append_assoc, List.cons_append, htake, hdrop]
    simp only [htake', hdrop']
    have hsome : ((vs.map Text.digitChar).isEmpty && (ws.map Text.digitChar).isEmpty) = false := by
      simpa using hne
    rw [if_neg (by rw [hsome]; exact Bool.false_ne_true)]
    simp

/-! ### Powers of ten and signs -/

theorem Sign.map_plainChar (h : Sign sign negative) : sign.map plainChar = sign := by
  cases h <;> rfl

theorem Sign.go_append (h : Sign sign negative) (rest : List Char) :
    dropUnderscores.go false (sign ++ rest) = (sign ++ ·) <$> dropUnderscores.go false rest := by
  cases h with
  | none => simp
  | plus => exact go_other (by decide) (by decide) rest
  | minus => exact go_other (by decide) (by decide) rest

theorem Sign.takeSign_append (h : Sign sign negative) (hrest : ∀ c ∈ rest.head?, c ≠ '+' ∧ c ≠ '-') :
    takeSign (sign ++ rest) = (negative, rest) := by
  cases h with
  | none =>
    cases rest with
    | nil => rfl
    | cons c rest =>
      obtain ⟨hplus, hminus⟩ := hrest c rfl
      rw [List.nil_append, takeSign.eq_3 _ (by simp [hminus]) (by simp [hplus])]
  | plus => rfl
  | minus => rfl

theorem digitChar_ne_sign {v : ℕ} (hv : v < 10) : Text.digitChar v ≠ '+' ∧ Text.digitChar v ≠ '-' := by
  have h : ∀ v < 10, Text.digitChar v ≠ '+' ∧ Text.digitChar v ≠ '-' := by decide
  exact h v hv

/-- What is left of a power of ten is read as its exponent. -/
theorem Power.exists_plain (h : Power es e) : ∃ plain, Ends plain ∧ readExponent plain = some e ∧
    ∀ afterDigit, dropUnderscores.go afterDigit (es.map plainChar) = some plain := by
  cases h with
  | none => exact ⟨[], by simp [Ends], rfl, fun _ => rfl⟩
  | @written letter sign cs negative vs isLetter signed digits =>
    obtain ⟨hplain, hdigit, hline, hpoint⟩ : plainChar letter = letter ∧ letter.isDigit = false ∧
        letter ≠ '_' ∧ letter ≠ '.' := by
      rcases isLetter with rfl | rfl <;> decide
    have hends : Ends (letter :: (sign ++ vs.map Text.digitChar)) := by
      simp [Ends, hdigit, hpoint]
    have hgo : ∀ afterDigit, dropUnderscores.go afterDigit ((letter :: (sign ++ cs)).map plainChar) =
        some (letter :: (sign ++ vs.map Text.digitChar)) := by
      intro afterDigit
      have hrun := digits.go_append false []
      rw [List.append_nil] at hrun
      rw [List.map_cons, hplain, go_other hline hdigit, List.map_append, signed.map_plainChar,
        signed.go_append, hrun]
      simp [dropUnderscores.go]
    refine ⟨_, hends, ?_, hgo⟩
    have hlt := digits.lt_ten
    have hhead : ∀ c ∈ (vs.map Text.digitChar).head?, c ≠ '+' ∧ c ≠ '-' := by
      obtain ⟨v, ws, rfl⟩ := List.exists_cons_of_ne_nil digits.ne_nil
      simpa using digitChar_ne_sign (hlt v (by simp))
    have hsign := signed.takeSign_append hhead
    have hall : (vs.map Text.digitChar).all Char.isDigit = true := by
      simp only [List.all_map, List.all_eq_true, Function.comp_apply]
      exact fun v hv => isDigit_digitChar (hlt v hv)
    have hletter : (letter == 'e' || letter == 'E') = true := by
      rcases isLetter with rfl | rfl <;> rfl
    simp [readExponent, hsign, hletter, hall, digits.ne_nil, natOf_map_digitChar hlt]

/-! ### The nearest double -/

theorem binary64_isProper : binary64.IsProper := ⟨by decide, by decide⟩

theorem dropWhile_zeros : ∀ {vs : List ℕ}, (∀ v ∈ vs, v < 10) →
    (vs.map Text.digitChar).dropWhile (· == '0') = (vs.dropWhile (· == 0)).map Text.digitChar
  | [], _ => rfl
  | v :: vs, hvs => by
    have hzero : ∀ v < 10, (Text.digitChar v == '0') = (v == 0) := by decide
    have hrest := dropWhile_zeros fun w hw => hvs w (List.mem_cons_of_mem v hw)
    rw [List.map_cons, List.dropWhile_cons, List.dropWhile_cons, hzero v (hvs v (by simp)), hrest]
    split <;> rfl

/-- Zeros in front add nothing. -/
theorem ofDigits_dropWhile_zeros : ∀ vs : List ℕ,
    Nat.ofDigits 10 (vs.dropWhile (· == 0)).reverse = Nat.ofDigits 10 vs.reverse
  | [] => rfl
  | v :: vs => by
    by_cases hv : v = 0
    · subst hv
      rw [List.dropWhile_cons_of_pos (by simp), ofDigits_dropWhile_zeros vs, List.reverse_cons,
        Nat.ofDigits_append]
      simp
    · rw [List.dropWhile_cons_of_neg (by simpa using hv)]

/-- Digits without a zero in front tell how large a number is. -/
theorem bounds_ofDigits {v : ℕ} (hv : v ≠ 0) (hlt : ∀ w ∈ v :: vs, w < 10) :
    10 ^ vs.length ≤ Nat.ofDigits 10 (v :: vs).reverse ∧
      Nat.ofDigits 10 (v :: vs).reverse < 10 ^ (vs.length + 1) := by
  constructor
  · rw [List.reverse_cons, Nat.ofDigits_append, List.length_reverse, Nat.ofDigits_singleton]
    exact (Nat.le_mul_of_pos_right _ (Nat.pos_of_ne_zero hv)).trans (Nat.le_add_left _ _)
  · have hbound := Nat.ofDigits_lt_base_pow_length (b := 10) (l := (v :: vs).reverse) (by decide)
      fun w hw => hlt w (List.mem_reverse.1 hw)
    rwa [List.length_reverse, List.length_cons] at hbound

theorem two_zpow_le : (2 : ℚ) ^ (1200 : ℤ) ≤ 10 ^ (400 : ℤ) := calc
  (2 : ℚ) ^ (1200 : ℤ) = (2 ^ (3 : ℤ)) ^ (400 : ℤ) := by rw [← zpow_mul]; rfl
  _ ≤ 10 ^ (400 : ℤ) := zpow_le_zpow_left₀ (by norm_num) (by norm_num) (by norm_num)

theorem rounds_small {q : ℚ} (hpos : 0 ≤ q) (hq : q ≤ 10 ^ (-400 : ℤ)) (negative : Bool) :
    binary64.Rounds (Binary.signed negative q) (.finite negative 0 binary64.minExponent) := by
  refine BinaryFormat.rounds_tiny binary64_isProper negative ?_
  have hleast : 2 * 10 ^ (-400 : ℤ) < (2 : ℚ) ^ binary64.minExponent := calc
    2 * (10 : ℚ) ^ (-400 : ℤ) ≤ 2 * 2 ^ (-1200 : ℤ) := by
      rw [zpow_neg, zpow_neg]
      gcongr
      exact two_zpow_le
    _ = 2 ^ (-1199 : ℤ) := (BinaryFormat.two_zpow_succ _).symm
    _ < 2 ^ binary64.minExponent := zpow_lt_zpow_right₀ (by norm_num) (by decide)
  rw [Binary.abs_signed, abs_of_nonneg hpos]
  linarith

theorem rounds_large {q : ℚ} (hq : 10 ^ (400 : ℤ) ≤ q) (negative : Bool) :
    binary64.Rounds (Binary.signed negative q) (.infinite negative) := by
  have hlimit : binary64.limit ≤ 10 ^ (400 : ℤ) := calc
    binary64.limit ≤ 2 ^ (53 : ℤ) * 2 ^ (971 : ℤ) := by
      refine mul_le_mul_of_nonneg_right ?_ (by positivity)
      exact sub_le_self _ (by norm_num)
    _ = 2 ^ (1024 : ℤ) := by rw [← zpow_add₀ two_ne_zero]; rfl
    _ ≤ 2 ^ (1200 : ℤ) := zpow_le_zpow_right₀ (by norm_num) (by decide)
    _ ≤ 10 ^ (400 : ℤ) := two_zpow_le
  have hpos : 0 < q := lt_of_lt_of_le (by norm_num) hq
  have hbeyond : binary64.limit ≤ |Binary.signed negative q| := by
    rw [Binary.abs_signed, abs_of_pos hpos]
    exact hlimit.trans hq
  have hinfinite := BinaryFormat.Rounds.infinite hbeyond
  have hsign : decide (Binary.signed negative q < 0) = negative := by
    cases negative
    · simp [Binary.signed, hpos.le]
    · simp [Binary.signed, hpos]
  rwa [hsign] at hinfinite

/-- What is read of digits and a power of ten is what rounding makes of the number that they denote; the numbers
that are not looked at are too close to zero for double precision, or too far away from it. -/
theorem rounds_nearest (hvs : ∀ v ∈ vs, v < 10) (negative : Bool) (e : ℤ) :
    binary64.Rounds (Binary.signed negative ((Nat.ofDigits 10 vs.reverse : ℕ) * 10 ^ e))
      (nearest negative ⟨vs.map Text.digitChar, e⟩) := by
  have hdigits := dropWhile_zeros hvs
  have hkept : ∀ v ∈ vs.dropWhile (· == 0), v < 10 := fun v hv => hvs v ((List.dropWhile_sublist _).mem hv)
  have hhead : ∀ v ∈ (vs.dropWhile (· == 0)).head?, v ≠ 0 := fun v hv => by
    have hnot := List.head?_dropWhile_not (· == 0) vs
    rw [Option.mem_def.1 hv] at hnot
    simpa using hnot
  rw [← ofDigits_dropWhile_zeros vs, nearest]
  dsimp only
  rw [hdigits]
  generalize vs.dropWhile (· == 0) = ws at *
  cases ws with
  | nil => simpa using rounds_small le_rfl (by positivity) negative
  | cons v ws =>
    obtain ⟨hlow, hhigh⟩ := bounds_ofDigits (hhead v rfl) hkept
    have hlow : (10 : ℚ) ^ (ws.length : ℤ) ≤ (Nat.ofDigits 10 (v :: ws).reverse : ℕ) := by exact_mod_cast hlow
    have hhigh : ((Nat.ofDigits 10 (v :: ws).reverse : ℕ) : ℚ) ≤ 10 ^ ((ws.length : ℤ) + 1) := by
      exact_mod_cast hhigh.le
    rw [natOf_map_digitChar hkept]
    generalize Nat.ofDigits 10 (v :: ws).reverse = n at *
    have hlength : ((((v :: ws).map Text.digitChar).length : ℕ) : ℤ) = ws.length + 1 := by simp
    rw [hlength]
    split_ifs with hnear hfar hexponent
    · refine rounds_small (by positivity) ?_ negative
      have hfirst : e + (ws.length + 1) < -400 := by simpa using hnear
      calc (n : ℚ) * 10 ^ e ≤ 10 ^ ((ws.length : ℤ) + 1) * 10 ^ e := by gcongr
        _ = 10 ^ (e + (ws.length + 1)) := by rw [← zpow_add₀ (by norm_num), add_comm]
        _ ≤ 10 ^ (-400 : ℤ) := zpow_le_zpow_right₀ (by norm_num) hfirst.le
    · refine rounds_large ?_ negative
      calc (10 : ℚ) ^ (400 : ℤ) ≤ 10 ^ ((ws.length : ℤ) + e) := zpow_le_zpow_right₀ (by norm_num) (by omega)
        _ = 10 ^ (ws.length : ℤ) * 10 ^ e := zpow_add₀ (by norm_num) _ _
        _ ≤ n * 10 ^ e := by gcongr
    · obtain ⟨k, rfl⟩ := Int.eq_ofNat_of_zero_le hexponent
      have hrounds := BinaryFormat.rounds_round binary64_isProper negative (n * 10 ^ k) one_pos
      simpa using hrounds
    · obtain ⟨k, hk⟩ : ∃ k : ℕ, -e = k := ⟨(-e).toNat, by omega⟩
      obtain rfl : e = -k := by omega
      have hpower : 0 < 10 ^ k := Nat.pow_pos (by decide)
      have hrounds := BinaryFormat.rounds_round binary64_isProper negative n hpower
      simpa [div_eq_mul_inv] using hrounds

/-! ### Reading -/

/-- A character that a number may begin with, behind its sign. -/
structure BeginsNumber (c : Char) : Prop where
  noSign : c ≠ '+' ∧ c ≠ '-'
  noWord : Text.lowerAscii c ≠ 'i' ∧ Text.lowerAscii c ≠ 'n'

theorem PlainMantissa.exists_cons (h : PlainMantissa plain vs k) (hvs : ∀ v ∈ vs, v < 10) :
    ∃ c tail, plain = c :: tail ∧ BeginsNumber c := by
  have hpoint : BeginsNumber '.' := ⟨by decide, by decide⟩
  have hdigit : ∀ v < 10, BeginsNumber (Text.digitChar v) := fun v hv =>
    ⟨digitChar_ne_sign hv, (by decide : ∀ v < 10, Text.lowerAscii (Text.digitChar v) ≠ 'i' ∧
      Text.lowerAscii (Text.digitChar v) ≠ 'n') v hv⟩
  cases h with
  | whole hne =>
    obtain ⟨v, ws, rfl⟩ := List.exists_cons_of_ne_nil hne
    exact ⟨_, _, rfl, hdigit v (hvs v (by simp))⟩
  | @pointed vs ws hne =>
    cases vs with
    | nil => exact ⟨_, _, rfl, hpoint⟩
    | cons v vs => exact ⟨_, _, rfl, hdigit v (hvs v (by simp))⟩

/-- What begins like a number is read as one. -/
theorem readMagnitude_cons (hc : BeginsNumber c) (cs : List Char) :
    readMagnitude (c :: cs) = (readScientific (c :: cs)).map .number := by
  have hword : ∀ w : String, w.toList.head? = some 'i' →
      (String.ofList ((c :: cs).map Text.lowerAscii) == w) = false := by
    intro w hw
    rw [beq_eq_false_iff_ne]
    rintro rfl
    rw [String.toList_ofList] at hw
    exact hc.noWord.1 (by simpa using hw)
  have hinfinity : isInfinityWord (c :: cs) = false := by
    rw [isInfinityWord, hword "inf" (by decide), hword "infinity" (by decide)]
    rfl
  rw [readMagnitude, if_neg (by rw [hinfinity]; exact Bool.false_ne_true), if_neg]
  simp [hc.noWord.2]

/-- What is read of a text that denotes a number is what rounding to double precision makes of the number. -/
theorem exists_readBinary (h : WritesReal (Text.stripBy isMargin cs) x) :
    ∃ b, readBinary cs = some b ∧ binary64.Rounds x b := by
  have hprepare := prepare_eq cs
  generalize Text.stripBy isMargin cs = body at *
  cases h with
  | @mk sign front es negative vs k e signed mantissa power =>
    obtain ⟨plain, hplain, hmantissa⟩ := mantissa.exists_plain
    obtain ⟨rest, hends, hexponent, hpower⟩ := power.exists_plain
    obtain ⟨afterDigit, hgo⟩ := hmantissa (es.map plainChar)
    have hdropped : dropUnderscores (prepare cs) = some (sign ++ (plain ++ rest)) := by
      rw [hprepare, dropUnderscores, List.map_append, List.map_append, signed.map_plainChar, List.append_assoc,
        signed.go_append, hgo, hpower]
      rfl
    obtain ⟨c, tail, rfl, hbegins⟩ := hplain.exists_cons mantissa.lt_ten
    have hhead : ∀ d ∈ (c :: tail ++ rest).head?, d ≠ '+' ∧ d ≠ '-' := by simpa using hbegins.noSign
    have hsign := signed.takeSign_append hhead
    have hread := readScientific_plain hplain mantissa.lt_ten hends
    rw [hexponent] at hread
    refine ⟨_, ?_, rounds_nearest mantissa.lt_ten negative (e - k)⟩
    rw [readBinary, hdropped, Option.bind_eq_bind, Option.bind_some, hsign]
    rw [List.cons_append] at hread ⊢
    simp only [readMagnitude_cons hbegins, hread]
    rfl

/-! ### What is read -/

section

variable {out ds after : List Char}

theorem go_cons_eq_some (hc : c ≠ '_') (h : dropUnderscores.go afterDigit (c :: cs) = some out) :
    ∃ out', out = c :: out' ∧ dropUnderscores.go c.isDigit cs = some out' := by
  rw [go_cons hc] at h
  obtain ⟨out', hout, rfl⟩ := Option.map_eq_some_iff.1 h
  exact ⟨out', rfl, hout⟩

/-- An underscore is left out only between two digits. -/
theorem go_underscore_eq_some (h : dropUnderscores.go afterDigit ('_' :: cs) = some out) :
    afterDigit = true ∧ ∃ d tail out', cs = d :: tail ∧ d.isDigit = true ∧ out = d :: out' ∧
      dropUnderscores.go true tail = some out' := by
  cases cs with
  | nil => simp [dropUnderscores.go] at h
  | cons d tail =>
    rw [dropUnderscores.go] at h
    split_ifs at h with hboth
    obtain ⟨hafter, hdigit⟩ := Bool.and_eq_true_iff.1 hboth
    obtain ⟨out', hout, rfl⟩ := Option.map_eq_some_iff.1 h
    exact ⟨hafter, d, tail, out', rfl, hdigit, rfl, hout⟩

/-- What is left begins with no digit: so no underscore was left out there. -/
theorem go_map_cons_eq_some {d : Char} (hd : d.isDigit = false)
    (h : dropUnderscores.go afterDigit (cs.map plainChar) = some (d :: out)) :
    ∃ c after, cs = c :: after ∧ plainChar c = d ∧ dropUnderscores.go false (after.map plainChar) = some out := by
  cases cs with
  | nil => simp [dropUnderscores.go] at h
  | cons c after =>
    rw [List.map_cons] at h
    have hc : plainChar c ≠ '_' := by
      intro hc
      rw [hc] at h
      obtain ⟨-, d', _, _, -, hdigit, hout, -⟩ := go_underscore_eq_some h
      rw [(List.cons.inj hout).1, hdigit] at hd
      cases hd
    obtain ⟨out', hout, hgo⟩ := go_cons_eq_some hc h
    obtain ⟨rfl, rfl⟩ := List.cons.inj hout
    rw [hd] at hgo
    exact ⟨c, after, rfl, rfl, hgo⟩

/-- Nothing is left of nothing only. -/
theorem eq_nil_of_go (h : dropUnderscores.go afterDigit (cs.map plainChar) = some []) : cs = [] := by
  cases cs with
  | nil => rfl
  | cons c after =>
    rw [List.map_cons] at h
    by_cases hc : plainChar c = '_'
    · rw [hc] at h
      obtain ⟨-, _, _, _, -, -, hout, -⟩ := go_underscore_eq_some h
      cases hout
    · obtain ⟨_, hout, -⟩ := go_cons_eq_some hc h
      cases hout

/-- Digits are left of a run of digits. The text is read one digit at a time, or two characters where an
underscore follows the digit. -/
theorem exists_run : ∀ {cs ds rest : List Char}, ds ≠ [] → (∀ d ∈ ds, d.isDigit = true) →
    (∀ c ∈ rest.head?, c.isDigit = false) →
    dropUnderscores.go false (cs.map plainChar) = some (ds ++ rest) →
    ∃ run after vs, cs = run ++ after ∧ DigitRun run vs ∧
      dropUnderscores.go true (after.map plainChar) = some rest
  | cs, [], _, hne, _, _, _ => absurd rfl hne
  | [], d :: ds, rest, _, _, _, h => by simp [dropUnderscores.go] at h
  | c :: cs, d :: ds, rest, _, hds, hrest, h => by
    rw [List.map_cons, List.cons_append] at h
    have hc : plainChar c ≠ '_' := fun hc => by
      rw [hc] at h
      cases (go_underscore_eq_some h).1
    obtain ⟨out, hout, hgo⟩ := go_cons_eq_some hc h
    obtain ⟨hd, rfl⟩ := List.cons.inj hout
    have hdigit : (plainChar c).isDigit = true := by
      rw [← hd]
      exact hds d (by simp)
    obtain ⟨v, hv⟩ := exists_digitValue?_of_isDigit hdigit
    rw [hdigit] at hgo
    have htail : ∀ d ∈ ds, d.isDigit = true := fun d hd => hds d (List.mem_cons_of_mem _ hd)
    match ds, htail, hgo with
    | [], _, hgo => exact ⟨[c], cs, [v], rfl, .last hv, hgo⟩
    | d' :: ds, htail, hgo =>
      match cs, hgo with
      | [], hgo => simp [dropUnderscores.go] at hgo
      | c' :: cs, hgo =>
        by_cases hc' : plainChar c' = '_'
        · rw [List.map_cons, hc'] at hgo
          obtain ⟨-, x, tail, out', hcs, hx, hout', hgo'⟩ := go_underscore_eq_some hgo
          have hagain : dropUnderscores.go false (cs.map plainChar) = some (d' :: ds ++ rest) := by
            have hx' : x ≠ '_' := by
              rintro rfl
              cases hx
            rw [hcs, go_cons hx', hx, hgo']
            exact congrArg some hout'.symm
          obtain ⟨run, after, vs, rfl, hrun, hafter⟩ := exists_run (by simp) htail hrest hagain
          rw [(plainChar_eq_iff (by simp)).1 hc']
          exact ⟨c :: '_' :: run, after, v :: vs, rfl, .spaced hv hrun, hafter⟩
        · have hagain : dropUnderscores.go false ((c' :: cs).map plainChar) = some (d' :: ds ++ rest) := by
            rw [List.map_cons, go_cons hc'] at hgo ⊢
            exact hgo
          obtain ⟨run, after, vs, hsplit, hrun, hafter⟩ := exists_run (by simp) htail hrest hagain
          rw [hsplit]
          exact ⟨c :: run, after, v :: vs, rfl, .next hv hrun, hafter⟩

/-- A sign that is taken off was there. -/
theorem exists_sign (h : dropUnderscores.go false (cs.map plainChar) = some out)
    (htake : takeSign out = (negative, rest)) : ∃ sign after, cs = sign ++ after ∧ Sign sign negative ∧
      dropUnderscores.go false (after.map plainChar) = some rest := by
  rw [takeSign.eq_def] at htake
  split at htake
  · obtain ⟨rfl, rfl⟩ := Prod.mk.inj htake
    obtain ⟨c, after, rfl, hc, hgo⟩ := go_map_cons_eq_some (by decide) h
    rw [(plainChar_eq_iff (by simp)).1 hc]
    exact ⟨['-'], after, rfl, .minus, hgo⟩
  · obtain ⟨rfl, rfl⟩ := Prod.mk.inj htake
    obtain ⟨c, after, rfl, hc, hgo⟩ := go_map_cons_eq_some (by decide) h
    rw [(plainChar_eq_iff (by simp)).1 hc]
    exact ⟨['+'], after, rfl, .plus, hgo⟩
  · obtain ⟨rfl, rfl⟩ := Prod.mk.inj htake
    exact ⟨[], cs, rfl, .none, h⟩

/-- An exponent is read of a power of ten only. -/
theorem exists_power (h : dropUnderscores.go afterDigit (es.map plainChar) = some rest)
    (hread : readExponent rest = some e) : Ends rest ∧ ∃ n, Power es n := by
  cases rest with
  | nil =>
    rw [eq_nil_of_go h]
    exact ⟨by simp [Ends], 0, .none⟩
  | cons letter tail =>
    obtain ⟨⟨negative, digits⟩, htake⟩ : ∃ taken, takeSign tail = taken := ⟨_, rfl⟩
    rw [readExponent, htake] at hread
    have hboth := (Option.ite_none_right_eq_some.1 hread).1
    simp only [Bool.and_eq_true, bne_iff_ne, List.all_eq_true, Bool.or_eq_true, beq_iff_eq] at hboth
    obtain ⟨⟨hletter, hne⟩, hall⟩ := hboth
    have hplain : letter.isDigit = false ∧ letter ≠ '.' := by
      rcases hletter with rfl | rfl <;> decide
    refine ⟨by simpa [Ends] using hplain, ?_⟩
    obtain ⟨c, after, rfl, hc, hgo⟩ := go_map_cons_eq_some hplain.1 h
    obtain ⟨sign, after, rfl, hsign, hgo⟩ := exists_sign hgo htake
    rw [← List.append_nil digits] at hgo
    obtain ⟨run, after, vs, rfl, hrun, hgo⟩ := exists_run hne hall (by simp) hgo
    have hc : c = letter := by
      rcases hletter with rfl | rfl <;> exact (plainChar_eq_iff (by simp)).1 hc
    rw [eq_nil_of_go hgo, List.append_nil, hc]
    exact ⟨_, .written hletter hsign hrun⟩

theorem isDigit_of_mem_takeWhile {d : Char} (hd : d ∈ out.takeWhile Char.isDigit) : d.isDigit = true := by
  simpa using List.mem_takeWhile_imp hd

theorem head?_dropWhile_isDigit {d : Char} (hd : d ∈ (out.dropWhile Char.isDigit).head?) : d.isDigit = false := by
  have hnot := List.head?_dropWhile_not Char.isDigit out
  rw [Option.mem_def.1 hd] at hnot
  simpa using hnot

/-- What a number is read of: digits, or digits around a point, and an exponent. -/
theorem readScientific_cases {value : Scientific} (h : readScientific out = some value) :
    ∃ front rest e, (∀ d ∈ front, d.isDigit = true) ∧ (∀ d ∈ rest.head?, d.isDigit = false) ∧
      readExponent rest = some e ∧ (front ≠ [] ∧ out = front ++ rest ∨
        ∃ fraction, (∀ d ∈ fraction, d.isDigit = true) ∧ (front ≠ [] ∨ fraction ≠ []) ∧
          out = front ++ '.' :: (fraction ++ rest)) := by
  have hout := List.takeWhile_append_dropWhile (p := Char.isDigit) (l := out)
  rw [readScientific] at h
  split at h
  next fraction rest hmatch =>
    have hsome := (Option.ite_none_left_eq_some.1 h).1
    obtain ⟨e, he, -⟩ := Option.map_eq_some_iff.1 (Option.ite_none_left_eq_some.1 h).2
    split at hmatch
    next more hback =>
      obtain ⟨rfl, rfl⟩ := Prod.mk.inj hmatch
      refine ⟨out.takeWhile Char.isDigit, _, e, fun d => isDigit_of_mem_takeWhile,
        fun d => head?_dropWhile_isDigit, he, .inr ⟨more.takeWhile Char.isDigit,
          fun d => isDigit_of_mem_takeWhile, ?_, ?_⟩⟩
      · simpa [or_iff_not_imp_left] using hsome
      · rw [List.takeWhile_append_dropWhile, ← hback, hout]
    next hpoint =>
      obtain ⟨rfl, rfl⟩ := Prod.mk.inj hmatch
      refine ⟨out.takeWhile Char.isDigit, _, e, fun d => isDigit_of_mem_takeWhile,
        fun d => head?_dropWhile_isDigit, he, .inl ⟨?_, hout.symm⟩⟩
      simpa using hsome

/-- A number is read of digits around a point and a power of ten only. -/
theorem exists_mantissa {value : Scientific} (h : dropUnderscores.go false (cs.map plainChar) = some out)
    (hread : readScientific out = some value) :
    ∃ front es vs k e, cs = front ++ es ∧ Mantissa front vs k ∧ Power es e := by
  obtain ⟨front, rest, e, hfront, hrest, hexponent, hcases⟩ := readScientific_cases hread
  have hpower : ∀ {es afterDigit}, dropUnderscores.go afterDigit (es.map plainChar) = some rest →
      ∃ n, Power es n := fun h => (exists_power h hexponent).2
  rcases hcases with ⟨hne, rfl⟩ | ⟨fraction, hfraction, hsome, rfl⟩
  · obtain ⟨run, after, vs, rfl, hrun, hgo⟩ := exists_run hne hfront hrest h
    obtain ⟨n, hn⟩ := hpower hgo
    exact ⟨run, after, vs, 0, n, rfl, .whole hrun, hn⟩
  · -- what follows the point, whether digits stand before it or not
    have hback : ∀ {afterDigit cs},
        dropUnderscores.go afterDigit (cs.map plainChar) = some ('.' :: (fraction ++ rest)) →
        ∃ ds es n, cs = '.' :: (ds ++ es) ∧ Power es n ∧
          (fraction = [] ∧ ds = [] ∨ ∃ ws, DigitRun ds ws) := by
      intro afterDigit cs h
      obtain ⟨c, after, rfl, hc, hgo⟩ := go_map_cons_eq_some (by decide) h
      rw [(plainChar_eq_iff (by simp)).1 hc]
      rcases eq_or_ne fraction [] with rfl | hne
      · obtain ⟨n, hn⟩ := hpower hgo
        exact ⟨[], after, n, rfl, hn, .inl ⟨rfl, rfl⟩⟩
      · obtain ⟨ds, es, ws, rfl, hrun, hgo⟩ := exists_run hne hfraction hrest hgo
        obtain ⟨n, hn⟩ := hpower hgo
        exact ⟨ds, es, n, rfl, hn, .inr ⟨ws, hrun⟩⟩
    rcases eq_or_ne front [] with rfl | hne
    · obtain ⟨ds, es, n, rfl, hn, ⟨hnil, -⟩ | ⟨ws, hws⟩⟩ := hback h
      · exact absurd hnil (hsome.resolve_left (by simp))
      · exact ⟨'.' :: ds, es, ws, _, n, rfl, .fraction hws, hn⟩
    · obtain ⟨run, after, vs, rfl, hrun, hgo⟩ := exists_run hne hfront (by simp) h
      obtain ⟨ds, es, n, rfl, hn, ⟨-, rfl⟩ | ⟨ws, hws⟩⟩ := hback hgo
      · exact ⟨run ++ ['.'], es, vs, _, n, by simp, .pointed hrun, hn⟩
      · exact ⟨run ++ '.' :: ds, es, _, _, n, by simp, .mixed hrun hws, hn⟩

/-- A finite number is read of a text only if the text denotes a number. -/
theorem exists_writesReal {b : Binary} (h : readBinary cs = some b) (hfinite : b.isFinite = true) :
    ∃ x, WritesReal (Text.stripBy isMargin cs) x := by
  have hprepare := prepare_eq cs
  generalize Text.stripBy isMargin cs = body at *
  rw [readBinary, hprepare] at h
  obtain ⟨out, hout, h⟩ := Option.bind_eq_some_iff.1 h
  obtain ⟨⟨negative, rest⟩, htake⟩ : ∃ taken, takeSign out = taken := ⟨_, rfl⟩
  rw [htake] at h
  obtain ⟨magnitude, hmagnitude, hb⟩ := Option.bind_eq_some_iff.1 h
  obtain ⟨sign, after, rfl, hsign, hgo⟩ := exists_sign hout htake
  have hnumber : ∃ value, readScientific rest = some value := by
    rw [readMagnitude] at hmagnitude
    split_ifs at hmagnitude
    · obtain rfl := Option.some.inj hmagnitude
      rw [← Option.some.inj hb] at hfinite
      cases hfinite
    · obtain rfl := Option.some.inj hmagnitude
      rw [← Option.some.inj hb] at hfinite
      cases hfinite
    · obtain ⟨value, hvalue, -⟩ := Option.map_eq_some_iff.1 hmagnitude
      exact ⟨value, hvalue⟩
  obtain ⟨value, hvalue⟩ := hnumber
  obtain ⟨front, es, vs, k, e, rfl, hmantissa, hpower⟩ := exists_mantissa hgo hvalue
  rw [← List.append_assoc]
  exact ⟨_, .mk hsign hmantissa hpower⟩

end

end OperatorConsole.Numeral
