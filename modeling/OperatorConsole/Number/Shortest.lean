import OperatorConsole.Number.Binary

/-!
The shortest decimal text of a floating point number. The numbers that round to a finite number form
an interval around it, with its ends when the significand is even. For one digit, two digits and so
on, the two neighbours of the number among the decimals of that length are looked up in the
interval; the first length with a hit decides, and of two hits the nearer one.
-/
namespace OperatorConsole.Shortest

/-- The decimal `digits * 10 ^ exponent`. -/
structure Digits where
  digits : Nat
  exponent : Int
  deriving DecidableEq, Repr

/-- The numerator and the denominator of `n * 10 ^ exponent`. -/
def scaleTen (n : Nat) (exponent : Int) : Nat × Nat :=
  if 0 ≤ exponent then (n * Nat.pow 10 exponent.toNat, 1) else (n, Nat.pow 10 (-exponent).toNat)

/-- The greatest power of ten that is at most a positive quotient. -/
def floorLog10 (num den : Nat) : Int :=
  let guess : Int := (Binary.floorLog2 num den * 30103) / 100000
  let atMost (k : Int) : Bool := let (a, b) := scaleTen 1 k; den * a ≤ num * b
  if atMost (guess + 1) then guess + 1 else if atMost guess then guess else guess - 1

/-- A number, the ends of the interval that rounds to it, over one denominator, and whether the ends
belong to it. -/
structure Interval where
  low : Nat
  value : Nat
  high : Nat
  den : Nat
  closed : Bool

/-- The interval of a positive double precision number. -/
def intervalOf (m : Nat) (e : Int) : Interval :=
  let below := if m = Nat.pow 2 52 && binary64.minExponent < e then 1 else 2
  let (up, den) := Binary.scale 1 (e - 2)
  ⟨(4 * m - below) * up, 4 * m * up, (4 * m + 2) * up, den, m % 2 = 0⟩

/-- The decimal lies in the interval. -/
def Interval.has (i : Interval) (d : Digits) : Bool :=
  let (a, b) := scaleTen d.digits d.exponent
  if i.closed then i.low * b ≤ a * i.den && a * i.den ≤ i.high * b
  else i.low * b < a * i.den && a * i.den < i.high * b

/-- The hit among the decimals whose last digit counts `10 ^ exponent`. -/
def hit? (i : Interval) (exponent : Int) : Option Digits :=
  let (up, down) := scaleTen 1 exponent
  let grain := i.den * up
  let q := i.value * down / grain
  let twice := 2 * (i.value * down % grain)
  let below : Digits := ⟨q, exponent⟩
  let above : Digits := ⟨q + 1, exponent⟩
  match i.has below, i.has above with
  | true, true => some (if grain < twice || (twice == grain && q % 2 == 1) then above else below)
  | true, false => some below
  | false, true => some above
  | false, false => none

/-- The digits of a positive double precision number. -/
def digitsOf (m : Nat) (e : Int) : Digits :=
  let i := intervalOf m e
  let top := floorLog10 i.value i.den
  let d := ((List.range 17).findSome? fun n : Nat => hit? i (top - n)).getD ⟨0, 0⟩
  if d.digits = 10 then ⟨1, d.exponent + 1⟩ else d

/-- Where positional notation ends. -/
structure Notation where
  /-- The lowest power of ten of a first digit that is written positionally. -/
  lowest : Int
  /-- The lowest power of ten of a first digit above it that is not. -/
  beyond : Int

/-- Numbers below `10 ^ -4` and from `10 ^ 16` on have an exponent. -/
def plain : Notation := ⟨-4, 16⟩

/-- Zeros, as many as a positive number says. -/
def zerosText (n : Int) : String := String.ofList (List.replicate n.toNat '0')

/-- A text of digits with a point before the last `count` of them. -/
def pointBefore (count : Nat) (text : String) : String :=
  let cs := text.toList
  let cs := List.replicate (count + 1 - cs.length) '0' ++ cs
  String.ofList (cs.take (cs.length - count) ++ '.' :: cs.drop (cs.length - count))

/-- The digits in a notation; a whole number keeps a point and a zero. -/
def Digits.write (d : Digits) (style : Notation) : String :=
  let text := toString d.digits
  let first : Int := d.exponent + text.length - 1
  if style.lowest ≤ first && first < style.beyond then
    if 0 ≤ d.exponent then text ++ zerosText d.exponent ++ ".0"
    else pointBefore (-d.exponent).toNat text
  else
    let front := if text.length = 1 then text else pointBefore (text.length - 1) text
    let size := toString first.natAbs
    let sign := if first < 0 then "-" else "+"
    front ++ "e" ++ sign ++ (if size.length < 2 then "0" else "") ++ size

/-- The shortest text that reads back as the number. -/
def text : Binary → String
  | .nan => "nan"
  | .infinite negative => if negative then "-inf" else "inf"
  | .finite negative m e =>
    (if negative then "-" else "") ++
      if m = 0 then "0.0" else (digitsOf m e).write plain

end OperatorConsole.Shortest
