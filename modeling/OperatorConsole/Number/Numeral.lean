import OperatorConsole.Number.Binary
import OperatorConsole.Text.Blank
import OperatorConsole.Text.Digit
import OperatorConsole.Text.LowerCase

/-!
Numerals: the texts that denote numbers. A numeral is brought to ASCII first (digits of any script
become ASCII digits, blanks from U+0080 on become spaces) and loses the spaces around it. Whole
numbers have at most 4300 digits; single underscores may stand between digits.
-/
namespace OperatorConsole.Numeral

/-! ### Preparation -/

/-- One character of a numeral in ASCII; what has no place in a numeral becomes a question mark. -/
def plainChar (c : Char) : Char :=
  if c.toNat < 0x7F then c
  else if Text.isBlank c then ' '
  else match Text.digitValue? c with
    | some d => Text.digitChar d
    | none => '?'

/-- The space and the ASCII controls that move the cursor. -/
def isSpace (c : Char) : Bool := c == ' ' || (0x09 ≤ c.toNat && c.toNat ≤ 0x0D)

/-- A numeral in ASCII without the spaces around it. -/
def prepare (cs : List Char) : List Char := Text.stripBy isSpace (cs.map plainChar)

/-- Takes a sign off; says whether it is a minus. -/
def takeSign : List Char → Bool × List Char
  | '-' :: rest => (true, rest)
  | '+' :: rest => (false, rest)
  | cs => (false, cs)

/-- The number that ASCII digits denote. -/
def natOf (digits : List Char) : Nat := digits.foldl (fun n d => 10 * n + (d.toNat - 0x30)) 0

/-! ### Whole numbers -/

/-- Why a text is no whole number. -/
inductive WholeFault where
  | malformed
  | tooLong (digits : Nat)
  deriving DecidableEq, Repr

/-- The most digits that a whole number is read from. -/
def digitLimit : Nat := 4300

/-- Every underscore stands between two digits; `afterDigit` says that a digit stands before. -/
def evenlySpaced (afterDigit : Bool) : List Char → Bool
  | [] => afterDigit
  | c :: rest => if c == '_' then afterDigit && evenlySpaced false rest else evenlySpaced true rest

/-- The whole number that a text denotes. The digits are counted before what follows them is looked
at. -/
def readWhole (cs : List Char) : Except WholeFault Int :=
  let (negative, body) := takeSign (prepare cs)
  let inNumeral (c : Char) : Bool := c.isDigit || c == '_'
  let run := body.takeWhile inNumeral
  let digits := run.filter (· != '_')
  if !evenlySpaced false run then .error .malformed
  else if digitLimit < digits.length then .error (.tooLong digits.length)
  else if body.length != run.length then .error .malformed
  else .ok (if negative then -(natOf digits : Int) else natOf digits)

/-! ### Numbers with a fraction or an exponent -/

/-- All digits of a number and the power of ten that the last one counts. -/
structure Scientific where
  digits : List Char
  exponent : Int
  deriving DecidableEq, Repr

/-- A special value or the digits of a number. -/
inductive Magnitude where
  | number (value : Scientific)
  | infinite
  | nan
  deriving DecidableEq, Repr

/-- An exponent: nothing, or the letter, a sign and at least one digit. -/
def readExponent : List Char → Option Int
  | [] => some 0
  | e :: rest =>
    let (negative, digits) := takeSign rest
    if (e == 'e' || e == 'E') && digits != [] && digits.all Char.isDigit then
      some (if negative then -(natOf digits : Int) else natOf digits)
    else none

/-- The digits of an unsigned number: digits with at most one point among them, then an exponent. -/
def readScientific (cs : List Char) : Option Scientific :=
  let front := cs.takeWhile Char.isDigit
  let (fraction, rest) := match cs.dropWhile Char.isDigit with
    | '.' :: more => (more.takeWhile Char.isDigit, more.dropWhile Char.isDigit)
    | more => ([], more)
  if front.isEmpty && fraction.isEmpty then none
  else (readExponent rest).map fun e => ⟨front ++ fraction, e - fraction.length⟩

/-- The words for infinity. -/
def isInfinityWord (cs : List Char) : Bool :=
  let word := String.ofList (cs.map Text.lowerAscii)
  word == "inf" || word == "infinity"

/-- An unsigned number or special value. -/
def readMagnitude (cs : List Char) : Option Magnitude :=
  if isInfinityWord cs then some .infinite
  else if cs.map Text.lowerAscii == ['n', 'a', 'n'] then some .nan
  else (readScientific cs).map .number

/-- The double precision number nearest to a decimal. -/
def nearest (negative : Bool) (s : Scientific) : Binary :=
  let digits := s.digits.dropWhile (· == '0')
  let first : Int := s.exponent + digits.length
  if digits.isEmpty || first < -400 then .finite negative 0 binary64.minExponent
  else if 400 < first then .infinite negative
  else
    let n := natOf digits
    if 0 ≤ s.exponent then Binary.round binary64 negative (n * Nat.pow 10 s.exponent.toNat) 1
    else Binary.round binary64 negative n (Nat.pow 10 (-s.exponent).toNat)

/-- The text without underscores, each of which stands between two digits. -/
def dropUnderscores (cs : List Char) : Option (List Char) :=
  let rec go (afterDigit : Bool) : List Char → Option (List Char)
    | [] => some []
    | '_' :: d :: rest =>
      if afterDigit && d.isDigit then (d :: ·) <$> go true rest else none
    | c :: rest => if c == '_' then none else (c :: ·) <$> go c.isDigit rest
  go false cs

/-- A signed magnitude as a double precision number. -/
def Magnitude.toBinary (negative : Bool) : Magnitude → Binary
  | .number s => nearest negative s
  | .infinite => .infinite negative
  | .nan => .nan

/-- The double precision number nearest to what a text denotes. -/
def readBinary (cs : List Char) : Option Binary := do
  let (negative, body) := takeSign (← dropUnderscores (prepare cs))
  return (← readMagnitude body).toBinary negative

end OperatorConsole.Numeral
