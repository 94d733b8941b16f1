import OperatorConsole.Charset.Reading

/-!
Text in units of two or four bytes. A mark in front says in which order the bytes of a unit stand,
unless the name of the set does. A unit of two bytes that is half of a pair needs the other half; one
of four bytes is a code point.
-/
namespace OperatorConsole.Charset

/-- The number of bytes, in one of two orders. -/
def unitOf (big : Bool) (bytes : Bytes) : Nat :=
  (if big then bytes else bytes.reverse).foldl (fun n b => n * 256 + b.toNat) 0

/-- A unit is the first half of a pair. -/
def isHigh (n : Nat) : Bool := 0xD800 ≤ n && n < 0xDC00

/-- A unit is the second half of a pair. -/
def isLow (n : Nat) : Bool := 0xDC00 ≤ n && n < 0xE000

/-- The code point of a pair. -/
def joinHalves (high low : Nat) : Nat := 0x10000 + (high - 0xD800) * 0x400 + (low - 0xDC00)

/-- What stands at the beginning of units of two bytes. -/
def pairStep (big : Bool) : Bytes → Reading
  | a :: b :: rest =>
    let n := unitOf big [a, b]
    if isLow n then .bad 2
    else if !isHigh n then .points [n] 2
    else match rest with
      | c :: d :: _ =>
        let m := unitOf big [c, d]
        if isLow m then .points [joinHalves n m] 4 else .bad 2
      | _ => .short
  | _ => .short

/-- What stands at the beginning of units of four bytes. -/
def quadStep (big : Bool) : Bytes → Reading
  | a :: b :: c :: d :: _ =>
    let n := unitOf big [a, b, c, d]
    if isHigh n || isLow n || 0x10FFFF < n then .bad 4 else .points [n] 4
  | _ => .short

/-- The order that a mark of so many bytes says. -/
def markOrder? (size : Nat) (bytes : Bytes) : Option Bool :=
  let mark := bytes.take size
  if mark.length < size then none
  else if unitOf true mark == 0xFEFF then some true
  else if unitOf false mark == 0xFEFF then some false
  else none

/-- The text of bytes whose mark, of so many bytes, says their order. -/
def readMarked (size : Nat) (step : Bool → Bytes → Reading) (bytes : Bytes) : Except Fault Decoded :=
  match markOrder? size bytes with
  | some big => readPlain (step big) (bytes.drop size)
  | none => if bytes.length < size then .ok [none] else .error (.noMark (8 * size))

end OperatorConsole.Charset
