import OperatorConsole.Number.Numeral
import OperatorConsole.Number.Shortest

/-!
Decimal numbers that keep their digits: a finite one is a coefficient and a power of ten, so that
`1.50` and `1.5` differ. A numeral is read without rounding or not at all.
-/
namespace OperatorConsole

/-- A decimal number; a finite one is `± coefficient * 10 ^ exponent`. -/
inductive Decimal where
  | finite (negative : Bool) (coefficient : Nat) (exponent : Int)
  | infinite (negative : Bool)
  | nan (negative signaling : Bool) (payload : Nat)
  deriving DecidableEq, Repr

namespace Decimal

/-- Why a text is no decimal number. -/
inductive Fault where
  | malformed
  | range
  deriving DecidableEq, Repr

/-- The greatest power of ten that a first digit may count. -/
def maxFirst : Int := 999999999999999999

/-- The least power of ten that a last digit may count. -/
def minLast : Int := -1999999999999999997

/-- The decimal number of digits, if its powers of ten are in range. -/
def ofScientific (negative : Bool) (s : Numeral.Scientific) : Except Fault Decimal :=
  let digits := s.digits.dropWhile (· == '0')
  let first : Int := s.exponent + (max digits.length 1 : Nat) - 1
  if maxFirst < first || s.exponent < minLast then .error .range
  else .ok (.finite negative (Numeral.natOf digits) s.exponent)

/-- The digits after the word for a quiet or a signaling not-a-number. -/
def readNan (cs : List Char) : Option (Bool × Nat) :=
  let (word, digits) := (cs.takeWhile Char.isAlpha, cs.dropWhile Char.isAlpha)
  let word := String.ofList (word.map Text.lowerAscii)
  if !digits.all Char.isDigit then none
  else if word == "nan" then some (false, Numeral.natOf digits)
  else if word == "snan" then some (true, Numeral.natOf digits)
  else none

/-- The decimal number that a text denotes; underscores do not count. -/
def read (cs : List Char) : Except Fault Decimal :=
  let cs := (Text.strip cs).filter (· != '_')
  let (negative, body) := Numeral.takeSign (cs.map Numeral.plainChar)
  match readNan body with
  | some (signaling, payload) => .ok (.nan negative signaling payload)
  | none =>
    if Numeral.isInfinityWord body then .ok (.infinite negative)
    else match Numeral.readScientific body with
      | some s => ofScientific negative s
      | none => .error .malformed

/-- A whole number as a decimal number. -/
def ofInt (n : Int) : Decimal := .finite (n < 0) n.natAbs 0

/-- The shortest decimal number that reads back as a floating point number. -/
def ofBinary : Binary → Option Decimal
  | .finite negative m e =>
    if m = 0 then some (.finite negative 0 0)
    else
      let d := Shortest.digitsOf m e
      let (digits, exponent) := if 0 ≤ d.exponent then (d.digits * Nat.pow 10 d.exponent.toNat, 0)
        else (d.digits, d.exponent)
      some (.finite negative digits exponent)
  | _ => none

/-- A number other than the infinities and the not-a-numbers. -/
def isFinite : Decimal → Bool
  | .finite .. => true
  | _ => false

/-- The text of an unsigned decimal number: positional unless the exponent is positive or the first
digit stands below `10 ^ -6`. -/
def magnitudeText (coefficient : Nat) (exponent : Int) : String :=
  let digits := toString coefficient
  let first : Int := exponent + digits.length - 1
  if exponent ≤ 0 && -6 ≤ first then
    if exponent = 0 then digits else Shortest.pointBefore (-exponent).toNat digits
  else
    let front := if digits.length = 1 then digits else Shortest.pointBefore (digits.length - 1) digits
    front ++ (if first < 0 then "E-" else "E+") ++ toString first.natAbs

/-- The text that reads back as the decimal number. -/
def text : Decimal → String
  | .finite negative coefficient exponent =>
    (if negative then "-" else "") ++ magnitudeText coefficient exponent
  | .infinite negative => if negative then "-Infinity" else "Infinity"
  | .nan negative signaling payload =>
    (if negative then "-" else "") ++ (if signaling then "sNaN" else "NaN") ++
      (if payload = 0 then "" else toString payload)

end Decimal

end OperatorConsole
