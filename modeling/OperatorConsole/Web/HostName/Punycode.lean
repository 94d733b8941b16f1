import OperatorConsole.Text.Lines

/-!
Names of hosts in ASCII. The characters beyond ASCII of a label are written after the others as
differences, in ascending order of code points and places, each difference as a number of variable
length in base 36 whose digits adapt to the size of the differences before it.
-/
namespace OperatorConsole.HostName.Punycode

/-- The character of a digit: letters, then figures. -/
def digitChar (d : Nat) : Char := if d < 26 then Char.ofNat (0x61 + d) else Char.ofNat (0x30 + d - 26)

/-- The digit of a character. -/
def digitValue? (c : Char) : Option Nat :=
  if 'a' ≤ c && c ≤ 'z' then some (c.toNat - 0x61)
  else if 'A' ≤ c && c ≤ 'Z' then some (c.toNat - 0x41)
  else if '0' ≤ c && c ≤ '9' then some (c.toNat - 0x30 + 26)
  else none

/-- The least digit after which a number goes on, at a place whose weight is given by `k`. -/
def threshold (k bias : Nat) : Nat :=
  if k ≤ bias then 1 else if bias + 26 ≤ k then 26 else k - bias

theorem threshold_pos (k bias : Nat) : 1 ≤ threshold k bias := by
  unfold threshold; split <;> (try split) <;> omega

theorem threshold_le (k bias : Nat) : threshold k bias ≤ 26 := by
  unfold threshold; split <;> (try split) <;> omega

/-- Divides a difference until it is small, counting the places. -/
def shrink (delta k : Nat) : Nat × Nat :=
  if 455 < delta then shrink (delta / 35) (k + 36) else (delta, k)
termination_by delta
decreasing_by exact Nat.div_lt_self (by omega) (by omega)

/-- The bias after a difference, among so many characters. -/
def adapt (delta count : Nat) (first : Bool) : Nat :=
  let scaled := if first then delta / 700 else delta / 2
  let (small, k) := shrink (scaled + scaled / count) 0
  k + 36 * small / (small + 38)

/-! ### Writing -/

/-- The digits of a difference from a place on. -/
def writeNumber (bias k q : Nat) : List Char :=
  let t := threshold k bias
  if q < t then [digitChar q]
  else digitChar (t + (q - t) % (36 - t)) :: writeNumber bias (k + 36) ((q - t) / (36 - t))
termination_by q
decreasing_by
  have _ := threshold_pos k bias
  have _ := threshold_le k bias
  calc (q - threshold k bias) / (36 - threshold k bias)
      ≤ q - threshold k bias := Nat.div_le_self _ _
    _ < q := by omega

/-- What is written, and what is known on the way: the difference so far, the bias, and how many
characters are written. -/
structure Writing where
  text : List Char
  delta : Nat
  bias : Nat
  written : Nat

/-- Passes a character of the label on the way to those of a code point; `basic` is the number of
ASCII characters. -/
def Writing.pass (basic point : Nat) (w : Writing) (c : Char) : Writing :=
  if c.toNat < point then { w with delta := w.delta + 1 }
  else if c.toNat == point then
    ⟨w.text ++ writeNumber w.bias 36 w.delta, 0, adapt w.delta (w.written + 1) (w.written == basic),
      w.written + 1⟩
  else w

/-- Writes the characters of ascending code points; `next` is the least one not yet passed. -/
def Writing.points (label : List Char) (basic next : Nat) (w : Writing) : List Nat → Writing
  | [] => w
  | point :: rest =>
    let w := { w with delta := w.delta + (point - next) * (w.written + 1) }
    let w := label.foldl (Writing.pass basic point) w
    Writing.points label basic (point + 1) { w with delta := w.delta + 1 } rest

/-- The label in ASCII. -/
def encode (label : List Char) : List Char :=
  let basic := label.filter (·.toNat < 0x80)
  let points := ((label.filter (0x80 ≤ ·.toNat)).map Char.toNat).eraseDups.mergeSort
  let lead := if basic.isEmpty then [] else basic ++ ['-']
  lead ++ (Writing.points label basic.length 0x80 ⟨[], 0, 72, basic.length⟩ points).text

/-! ### Reading -/

/-- The number at the start of a text, added to another one, and what follows. -/
def readNumber (bias : Nat) : List Char → Nat → Nat → Nat → Option (Nat × List Char)
  | [], _, _, _ => none
  | c :: rest, k, weight, n =>
    match digitValue? c with
    | none => none
    | some d =>
      if d < threshold k bias then some (n + d * weight, rest)
      else readNumber bias rest (k + 36) (weight * (36 - threshold k bias)) (n + d * weight)

theorem length_readNumber_lt (bias : Nat) (cs : List Char) (k weight n : Nat) (r : Nat × List Char)
    (h : readNumber bias cs k weight n = some r) : r.2.length < cs.length := by
  induction cs generalizing k weight n with
  | nil => simp [readNumber] at h
  | cons c rest ih =>
    rw [readNumber] at h
    split at h
    · simp at h
    · split at h
      · rw [← Option.some.inj h]; simp
      · have := ih _ _ _ h
        simp only [List.length_cons]; omega

/-- Puts the characters that numbers stand for into a label; `point` and `place` say where the last
one went, and `first` that none went anywhere. -/
def readPoints (bias point place : Nat) (first : Bool) (label : List Char) :
    List Char → Option (List Char)
  | [] => some label
  | c :: rest =>
    match _h : readNumber bias (c :: rest) 36 1 place with
    | none => none
    | some (total, after) =>
      let count := label.length + 1
      let point := point + total / count
      if point < 0xD800 || (0xDFFF < point && point < 0x110000) then
        readPoints (adapt (total - place) count first) point (total % count + 1) false
          (label.insertIdx (total % count) (Char.ofNat point)) after
      else none
termination_by cs => cs.length
decreasing_by
  have := length_readNumber_lt bias (c :: rest) 36 1 place (total, after) _h
  simpa using this

/-- The label that a text in ASCII stands for. -/
def decode? (text : List Char) : Option (List Char) :=
  match Text.cut '-' text.reverse with
  | (numbers, some basic) => readPoints 72 0x80 0 true basic.reverse numbers.reverse
  | (_, none) => readPoints 72 0x80 0 true [] text

end OperatorConsole.HostName.Punycode
