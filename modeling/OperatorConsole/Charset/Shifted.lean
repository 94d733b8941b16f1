import OperatorConsole.Charset.Units

/-!
Text in which a plus sign turns to six bits a character. The bits are those of units of two bytes; any
character outside the alphabet turns back, and a minus sign that does so is left out.
-/
namespace OperatorConsole.Charset

/-- The six bits of a character of the alphabet. -/
def sextet? (b : UInt8) : Option Nat :=
  let n := b.toNat
  if 0x41 ≤ n && n ≤ 0x5A then some (n - 0x41)
  else if 0x61 ≤ n && n ≤ 0x7A then some (n - 0x61 + 26)
  else if 0x30 ≤ n && n ≤ 0x39 then some (n - 0x30 + 52)
  else if n == 0x2B then some 62
  else if n == 0x2F then some 63
  else none

/-- A character that stands for itself. -/
def isDirect (b : UInt8) : Bool := b < 0x80 && b != 0x2B

/-- Units that are being read: the bits that are left, how many they are, and the first half of a
pair. -/
structure Sextets where
  bits : Nat
  count : Nat
  half : Option Nat
  deriving DecidableEq, Repr

/-- The code points of a unit after a half or none, and the half that it is. -/
def joinUnit (half : Option Nat) (n : Nat) : List Nat × Option Nat :=
  match half with
  | some high =>
    if isLow n then ([joinHalves high n], none)
    else if isHigh n then ([high], some n)
    else ([high, n], none)
  | none => if isHigh n then ([], some n) else ([n], none)

/-- Takes six bits in: code points of a unit that is full. -/
def Sextets.feed (s : Sextets) (six : Nat) : List Nat × Sextets :=
  let bits := s.bits * 64 + six
  let count := s.count + 6
  if count < 16 then ([], { s with bits := bits, count := count })
  else
    let rest := count - 16
    let (found, half) := joinUnit s.half (bits >>> rest)
    (found, ⟨bits % (1 <<< rest), rest, half⟩)

/-- The bits that are left are too many, or not zero. -/
def Sextets.isUnfinished (s : Sextets) : Bool := 6 ≤ s.count || s.bits != 0

/-- Where reading is: outside a run, at the beginning of one, or in one. -/
inductive Run where
  | outside
  | begun
  | inside (s : Sextets)
  deriving DecidableEq, Repr

/-- What a byte outside runs gives. -/
def Run.outsideStep (b : UInt8) : Decoded × Run :=
  if b == 0x2B then ([], .begun)
  else if isDirect b then ([some b.toNat], .outside)
  else ([none], .outside)

/-- What a byte gives, and where reading is after it. -/
def Run.step (r : Run) (b : UInt8) : Decoded × Run :=
  match r, sextet? b with
  | .outside, _ => outsideStep b
  | .begun, some six =>
    let (found, s) := Sextets.feed ⟨0, 0, none⟩ six
    (found.map some, .inside s)
  | .begun, none => if b == 0x2D then ([some 0x2B], .outside) else ([none], .outside)
  | .inside s, some six =>
    let (found, s) := s.feed six
    (found.map some, .inside s)
  | .inside s, none =>
    if s.isUnfinished then ([none], .outside)
    else
      let half := if isDirect b then s.half.toList.map some else []
      if b == 0x2D then (half, .outside)
      else
        let (found, r) := outsideStep b
        (half ++ found, r)

/-- What is left at the end of the bytes. -/
def Run.rest : Run → Decoded
  | .inside s => if s.half.isSome || s.isUnfinished then [none] else []
  | _ => []

/-- The text of bytes. -/
def readShifted (r : Run) : Bytes → Decoded
  | [] => r.rest
  | b :: bytes =>
    let (found, r) := r.step b
    found ++ readShifted r bytes

end OperatorConsole.Charset
