import OperatorConsole.Argument.Scalar
import OperatorConsole.Proofs.Number.Whole
import OperatorConsole.Proofs.Steps

/-!
Arguments that are whole numbers of a width. Main result: a text gives a number just if it denotes that between
its margins and the width holds it, and is refused otherwise; a number comes back from its own text just if the
width holds it; two widths never take a text for different numbers.
-/
namespace OperatorConsole

/-- The text denotes the number, margins apart. -/
def DenotesWhole (text : String) (n : Int) : Prop :=
  Numeral.Denotes (Text.stripBy Numeral.isMargin text.toList) n

/-- The values of arguments of a width are the numbers that their texts denote, as far as the width holds them. -/
structure Width.ReadsExactly (w : Width) : Prop where
  value : ∀ text v, readScalar (.integer w) text = .ok v ↔ ∃ n, v = .int n ∧ DenotesWhole text n ∧ w.Holds n
  refused : ∀ text, (∃ fault, readScalar (.integer w) text = .error fault) ↔
    ∀ n, DenotesWhole text n → ¬ w.Holds n
  outside : ∀ text n, readScalar (.integer w) text = .error (.outOfRange n) ↔ DenotesWhole text n ∧ ¬ w.Holds n
  printed : ∀ n, readScalar (.integer w) (toString n) = .ok (.int n) ↔ w.Holds n
  unprinted : ∀ n, ¬ w.Holds n → ∃ fault, readScalar (.integer w) (toString n) = .error fault
  alike : ∀ w' text v v', readScalar (.integer w) text = .ok v → readScalar (.integer w') text = .ok v' → v = v'

variable {w : Width} {text : String} {v : Value} {n n' : Int}

/-! ### Reading -/

/-- A text denotes at most one number. -/
theorem DenotesWhole.unique (h : DenotesWhole text n) (h' : DenotesWhole text n') : n = n' := by
  have hread := Numeral.readWhole_eq_ok_iff_denotes.2 h
  rw [Numeral.readWhole_eq_ok_iff_denotes.2 h'] at hread
  exact (Except.ok.inj hread).symm

theorem readInteger_eq_ok_iff : readInteger w text.toList = .ok n ↔ DenotesWhole text n ∧ w.Holds n := by
  rw [DenotesWhole, ← Numeral.readWhole_eq_ok_iff_denotes, readInteger]
  cases Numeral.readWhole text.toList with
  | ok m =>
    dsimp only
    split_ifs with hm
    · rw [Except.ok.injEq, Except.ok.injEq]
      exact ⟨fun h => ⟨h, h ▸ hm⟩, And.left⟩
    · refine iff_of_false nofun fun h => hm ?_
      rw [Except.ok.inj h.1]
      exact h.2
  | error fault => cases fault <;> exact iff_of_false nofun fun h => nomatch h.1

theorem readInteger_eq_outOfRange_iff :
    readInteger w text.toList = .error (.outOfRange n) ↔ DenotesWhole text n ∧ ¬ w.Holds n := by
  rw [DenotesWhole, ← Numeral.readWhole_eq_ok_iff_denotes, readInteger]
  cases Numeral.readWhole text.toList with
  | ok m =>
    dsimp only
    split_ifs with hm
    · refine iff_of_false nofun fun h => h.2 ?_
      rw [← Except.ok.inj h.1]
      exact hm
    · rw [Except.error.injEq, ScalarFault.outOfRange.injEq, Except.ok.injEq]
      exact ⟨fun h => ⟨h, h ▸ hm⟩, And.left⟩
  | error fault => cases fault <;> exact iff_of_false nofun fun h => nomatch h.1

/-! ### Printing -/

/-- The numbers of a width are all short enough to be read. -/
theorem Width.isShort_of_holds (h : w.Holds n) : Numeral.IsShort n := by
  have hbound : n.natAbs ≤ 2 ^ 64 := by
    cases w <;> simp [Width.Holds, Width.low, Width.high, Width.bits, Width.signed] at h <;> omega
  refine Numeral.isShort_iff.2 (hbound.trans_lt ?_)
  calc 2 ^ 64 < 10 ^ 20 := by norm_num
    _ ≤ 10 ^ Numeral.digitLimit := Nat.pow_le_pow_right (by decide) (by decide)

/-- The text of a short number denotes that number. -/
theorem denotesWhole_toString (h : Numeral.IsShort n) : DenotesWhole (toString n) n := by
  rw [Numeral.IsShort] at h
  refine Numeral.readWhole_eq_ok_iff_denotes.1 ?_
  rw [Numeral.readWhole_toString, if_neg (by omega)]

/-! ### Arguments -/

theorem readScalar_integer : readScalar (.integer w) text = (readInteger w text.toList).map .int := rfl

theorem readScalar_integer_eq_ok_iff :
    readScalar (.integer w) text = .ok v ↔ ∃ n, v = .int n ∧ DenotesWhole text n ∧ w.Holds n := by
  rw [readScalar_integer, map_eq_ok_iff]
  refine exists_congr fun n => ?_
  rw [readInteger_eq_ok_iff, and_comm, eq_comm]

theorem readScalar_integer_eq_outOfRange_iff :
    readScalar (.integer w) text = .error (.outOfRange n) ↔ DenotesWhole text n ∧ ¬ w.Holds n := by
  rw [readScalar_integer, map_eq_error_iff, readInteger_eq_outOfRange_iff]

theorem exists_readScalar_eq_error_iff : (∃ fault, readScalar (.integer w) text = .error fault) ↔
    ∀ n, DenotesWhole text n → ¬ w.Holds n := by
  cases hread : readScalar (.integer w) text with
  | ok v =>
    obtain ⟨n, -, hn, hholds⟩ := readScalar_integer_eq_ok_iff.1 hread
    exact iff_of_false (fun h => nomatch h) fun h => h n hn hholds
  | error fault =>
    refine iff_of_true ⟨fault, rfl⟩ fun n hn hholds => ?_
    rw [readScalar_integer_eq_ok_iff.2 ⟨n, rfl, hn, hholds⟩] at hread
    cases hread

theorem readScalar_toString_eq_ok_iff : readScalar (.integer w) (toString n) = .ok (.int n) ↔ w.Holds n := by
  rw [readScalar_integer_eq_ok_iff]
  constructor
  · rintro ⟨m, hm, -, hholds⟩
    rwa [Value.int.inj hm]
  · intro hholds
    exact ⟨n, rfl, denotesWhole_toString (Width.isShort_of_holds hholds), hholds⟩

/-- The text of a number that the width does not hold is refused, for its range or for its length. -/
theorem exists_readScalar_toString_eq_error (h : ¬ w.Holds n) :
    ∃ fault, readScalar (.integer w) (toString n) = .error fault := by
  refine exists_readScalar_eq_error_iff.2 fun m hm hholds => ?_
  by_cases hshort : Numeral.IsShort n
  · exact h ((denotesWhole_toString hshort).unique hm ▸ hholds)
  · rw [Numeral.IsShort, not_le] at hshort
    rw [DenotesWhole, ← Numeral.readWhole_eq_ok_iff_denotes, Numeral.readWhole_toString, if_pos hshort] at hm
    cases hm

/-- Whatever the width, its arguments are read exactly. -/
theorem Width.readsExactly (w : Width) : w.ReadsExactly where
  value _ _ := readScalar_integer_eq_ok_iff
  refused _ := exists_readScalar_eq_error_iff
  outside _ _ := readScalar_integer_eq_outOfRange_iff
  printed _ := readScalar_toString_eq_ok_iff
  unprinted _ := exists_readScalar_toString_eq_error
  alike w' text v v' h h' := by
    obtain ⟨n, rfl, hn, -⟩ := readScalar_integer_eq_ok_iff.1 h
    obtain ⟨n', rfl, hn', -⟩ := readScalar_integer_eq_ok_iff.1 h'
    rw [hn.unique hn']

example : readInteger .int8 " -1_२० ".toList = .ok (-120) := by decide +kernel

/-- An information separator is white space, and yet it does not belong to the margin of a number. -/
theorem separator_not_stripped : Numeral.Denotes (Text.strip "\x1c5".toList) 5 ∧ Width.int8.Holds 5 ∧
    readScalar (.integer .int8) "\x1c5" = .error .notWhole := by
  have hstrip : Text.strip "\x1c5".toList = ['5'] := by decide +kernel
  have hcounts : Numeral.Counts ['5'] 5 := ⟨[5], .last (by decide +kernel), by decide, by decide⟩
  have hread : Numeral.readWhole "\x1c5".toList = .error .malformed := by decide +kernel
  refine ⟨?_, by decide, ?_⟩
  · rw [hstrip]
    exact .bare hcounts
  · rw [readScalar_integer, readInteger, hread]
    rfl

end OperatorConsole
