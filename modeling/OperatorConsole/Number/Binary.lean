/-!
Binary floating point numbers, exactly. A finite number is a sign, a significand and a power of two;
a format bounds the significand and the power. A quotient of natural numbers goes to the nearest
number of a format, a tie to the even significand, and beyond the largest number to infinity.
-/
namespace OperatorConsole

/-- The bounds of a floating point format: significands have at most `precision` bits, the power of
two of the last bit lies between the two exponents. -/
structure BinaryFormat where
  precision : Nat
  minExponent : Int
  maxExponent : Int
  deriving DecidableEq, Repr

/-- Double precision. -/
def binary64 : BinaryFormat := ⟨53, -1074, 971⟩

/-- Single precision. -/
def binary32 : BinaryFormat := ⟨24, -149, 104⟩

/-- A floating point number; a finite one is `± significand * 2 ^ exponent`. -/
inductive Binary where
  | finite (negative : Bool) (significand : Nat) (exponent : Int)
  | infinite (negative : Bool)
  | nan
  deriving DecidableEq, Repr

namespace Binary

/-- The numerator and the denominator of `n * 2 ^ exponent`. -/
def scale (n : Nat) (exponent : Int) : Nat × Nat :=
  if 0 ≤ exponent then (n * Nat.pow 2 exponent.toNat, 1) else (n, Nat.pow 2 (-exponent).toNat)

/-- The whole number nearest to a quotient, the even one of two. -/
def nearestEven (num den : Nat) : Nat :=
  let q := num / den
  let twice := 2 * (num % den)
  if den < twice || (twice == den && q % 2 == 1) then q + 1 else q

/-- The greatest power of two that is at most the quotient of two positive numbers. -/
def floorLog2 (num den : Nat) : Int :=
  let guess : Int := (num.log2 : Int) - den.log2
  let (a, b) := scale 1 guess
  if den * a ≤ num * b then guess else guess - 1

/-- The power of two of the last bit that a format keeps of a quotient. -/
def lastPlace (format : BinaryFormat) (num den : Nat) : Int :=
  max format.minExponent (floorLog2 num den - (format.precision - 1 : Int))

/-- The number of a format nearest to a quotient. -/
def round (format : BinaryFormat) (negative : Bool) (num den : Nat) : Binary :=
  if num = 0 then .finite negative 0 format.minExponent
  else
    let place := lastPlace format num den
    let (up, down) := scale 1 place
    let m := nearestEven (num * down) (den * up)
    let (m, place) :=
      if m = Nat.pow 2 format.precision then (Nat.pow 2 (format.precision - 1), place + 1) else (m, place)
    if place ≤ format.maxExponent then .finite negative m place else .infinite negative

/-- The number in another format. -/
def convert (format : BinaryFormat) : Binary → Binary
  | .finite negative m e => let (num, den) := scale m e; round format negative num den
  | x => x

/-- A whole number as a floating point number. -/
def ofInt (format : BinaryFormat) (n : Int) : Binary := round format (n < 0) n.natAbs 1

/-- A number other than the infinities and the not-a-number. -/
def isFinite : Binary → Bool
  | .finite .. => true
  | _ => false

/-- The whole number that a finite number is, if it is one. -/
def toInt? : Binary → Option Int
  | .finite negative m e =>
    let (num, den) := scale m e
    if num % den = 0 then some (if negative then -(num / den : Nat) else (num / den : Nat)) else none
  | _ => none

/-- Greater than zero. -/
def isPositive : Binary → Bool
  | .finite negative m _ => !negative && m != 0
  | .infinite negative => !negative
  | .nan => false

/-- The encoding in 64 bits of a double precision number; every not-a-number is the same one. -/
def toBits : Binary → Nat
  | .finite negative m e =>
    let sign := if negative then Nat.pow 2 63 else 0
    if m < Nat.pow 2 52 then sign + m
    else sign + (e + 1075).toNat * Nat.pow 2 52 + (m - Nat.pow 2 52)
  | .infinite negative => (if negative then Nat.pow 2 63 else 0) + 2047 * Nat.pow 2 52
  | .nan => 2047 * Nat.pow 2 52 + Nat.pow 2 51

end Binary

end OperatorConsole
