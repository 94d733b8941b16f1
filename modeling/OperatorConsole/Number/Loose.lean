import OperatorConsole.Number.Numeral
import OperatorConsole.Text.Lines

/-!
Numbers as people write them in texts that are meant for machines: with white space around them, zeros
in front, single underscores between digits, and a whole number with a fraction of zeros. What is
left without these has to be a number as documents write it.
-/
namespace OperatorConsole.Numeral

/-- White space around a number. -/
def isTrimmed (c : Char) : Bool := Text.isBlank c && !(0x1C ≤ c.toNat && c.toNat ≤ 0x1F)

/-! ### Whole numbers -/

/-- A whole number as documents write it: no plus sign, no zero in front, and with its sign at most
as many characters as a number may have digits. -/
def readPlainWhole (cs : List Char) : Except WholeFault Int :=
  let (negative, body) := match cs with
    | '-' :: rest => (true, rest)
    | cs => (false, cs)
  let run := body.takeWhile Char.isDigit
  let width := cs.length - body.length + run.length
  if run.isEmpty || (run.length > 1 && run.head? == some '0') then .error .malformed
  else if digitLimit < width then .error (.tooLong width)
  else if run.length != body.length then .error .malformed
  else .ok (if negative then -(natOf run : Int) else natOf run)

/-- Zeros and underscores in front of a number taken away, `last` being the one read last; one stays
before a point and at the end. -/
def dropZerosAfter (last : Char) : List Char → Option (List Char)
  | [] => some [last]
  | c :: rest =>
    if c == '0' || c == '_' then dropZerosAfter c rest
    else if c.isDigit || c == '-' then some (c :: rest)
    else if c == '.' then some (last :: c :: rest)
    else none

/-- Zeros in front of a number taken away; a number begins with a digit. -/
def dropZeros : List Char → Option (List Char)
  | '0' :: rest => dropZerosAfter '0' rest
  | c :: rest => if c.isDigit then some (c :: rest) else none
  | [] => none

/-- Zeros in front of a number taken away, after its minus sign if it has one. -/
def dropSignedZeros : List Char → Option (List Char)
  | '-' :: rest => (dropZeros rest).map ('-' :: ·)
  | cs => dropZeros cs

/-- A fraction of one or more zeros taken away. -/
def dropZeroFraction (cs : List Char) : List Char :=
  match Text.cut '.' cs with
  | (whole, some fraction) => if fraction != [] && fraction.all (· == '0') then whole else cs
  | (_, none) => cs

/-- Underscores taken away, which stand alone and at neither end. -/
def dropSingleUnderscores (cs : List Char) : Option (List Char) :=
  let parts := Text.splitAt '_' cs
  if parts.length < 2 || parts.any List.isEmpty then none else some parts.flatten

/-- A number in a string brought to the form that documents write. -/
def cleanWhole (cs : List Char) : Option (List Char) := do
  let body ← match cs with
    | '+' :: '-' :: _ => none
    | '+' :: rest => some rest
    | cs => some cs
  let body := dropZeroFraction (← dropSignedZeros body)
  return (dropSingleUnderscores body).getD body

/-- The whole number that a text denotes, as it is or when it is brought to the plain form. -/
def readLooseWhole (cs : List Char) : Except WholeFault Int :=
  match readPlainWhole cs with
  | .error .malformed =>
    match (cleanWhole (Text.stripBy isTrimmed cs)).map readPlainWhole with
    | some (.ok n) => .ok n
    | _ => .error .malformed
  | result => result

/-! ### Floating point numbers -/

/-- The floating point number that a numeral in ASCII denotes. -/
def readPlainReal (cs : List Char) : Option Binary :=
  let (negative, body) := takeSign cs
  (readMagnitude body).map (·.toBinary negative)

/-- The floating point number that a text denotes, without the white space around it or else without
its underscores. -/
def readLooseReal (cs : List Char) : Option Binary :=
  readPlainReal (Text.stripBy isTrimmed cs) <|> (dropSingleUnderscores cs).bind readPlainReal

end OperatorConsole.Numeral
