import OperatorConsole.Json.Basic
import OperatorConsole.Number.Numeral

/-!
The tokens of a JSON text: marks, scalars and strings. What begins no token, or a string or number
that cannot be read, is a token too, so that whether a token may stand where it stands is asked
first. The place of a token is the number of characters from its first one to the end of the text.
-/
namespace OperatorConsole.Json

/-! ### Strings -/

/-- What is wrong inside a string. -/
inductive StringDefect where
  | unterminated
  | control
  | escape
  | unicodeEscape
  deriving DecidableEq, Repr

/-- The value of a hexadecimal digit. -/
def hexValue? (c : Char) : Option Nat :=
  if '0' ≤ c && c ≤ '9' then some (c.toNat - 0x30)
  else if 'a' ≤ c && c ≤ 'f' then some (c.toNat - 0x57)
  else if 'A' ≤ c && c ≤ 'F' then some (c.toNat - 0x37)
  else none

/-- The value of four hexadecimal digits. -/
def hexFour? (a b c d : Char) : Option Nat := do
  return ((← hexValue? a) * 16 + (← hexValue? b)) * 256 + (← hexValue? c) * 16 + (← hexValue? d)

/-- The code point that a letter after a backslash stands for. -/
def escapeValue? (c : Char) : Option Nat :=
  match c with
  | '"' => some 0x22
  | '\\' => some 0x5C
  | '/' => some 0x2F
  | 'b' => some 0x08
  | 'f' => some 0x0C
  | 'n' => some 0x0A
  | 'r' => some 0x0D
  | 't' => some 0x09
  | _ => none

/-- Reads a string after its opening quote: its units in reverse and what follows its closing quote,
or a defect and its place. -/
def readUnits (units : CodePoints) : List Char → Except (StringDefect × Nat) (CodePoints × List Char)
  | [] => .error (.unterminated, 0)
  | c :: rest =>
    if c == '"' then .ok (units, rest)
    else if c == '\\' then
      match rest with
      | [] => .error (.unterminated, 0)
      | e :: after =>
        if e == 'u' then
          match after with
          | h1 :: h2 :: h3 :: h4 :: tail =>
            match hexFour? h1 h2 h3 h4, tail.isEmpty with
            | some n, false => readUnits (n :: units) tail
            | _, _ => .error (.unicodeEscape, after.length + 1)
          | _ => .error (.unicodeEscape, after.length + 1)
        else match escapeValue? e with
          | some n => readUnits (n :: units) after
          | none => .error (.escape, after.length + 2)
    else if c.toNat < 0x20 then .error (.control, rest.length + 1)
    else readUnits (c.toNat :: units) rest

/-- The two halves of a pair as one code point. -/
def joinHalves (high low : Nat) : Nat := 0x10000 + (high - 0xD800) * 0x400 + (low - 0xDC00)

/-- Puts a unit in front of code points; a first half joins the second half after it. -/
def consUnit (n : Nat) : CodePoints → CodePoints
  | m :: rest =>
    if 0xD800 ≤ n && n < 0xDC00 && 0xDC00 ≤ m && m < 0xE000 then joinHalves n m :: rest
    else n :: m :: rest
  | [] => [n]

/-- The code points of units given in reverse. -/
def joinUnits (units : CodePoints) : CodePoints :=
  units.foldl (fun points n => consUnit n points) []

theorem readUnits_length {units : CodePoints} {cs : List Char} {found : CodePoints × List Char}
    (h : readUnits units cs = .ok found) : found.2.length < cs.length := by
  fun_induction readUnits units cs <;> simp_all <;> grind

/-! ### Numbers -/

/-- The first character of a text, if it is of a kind. -/
def oneOf (p : Char → Bool) (cs : List Char) : List Char := (cs.takeWhile p).take 1

/-- The digits of a number before its fraction; a zero in front stands alone. -/
def wholeDigits : List Char → List Char
  | '0' :: _ => ['0']
  | cs => cs.takeWhile Char.isDigit

/-- A character of a kind and a part of what follows it, unless that part is empty. -/
def marked (p : Char → Bool) (part : List Char → List Char) : List Char → List Char
  | c :: rest => if p c && !(part rest).isEmpty then c :: part rest else []
  | [] => []

/-- The fraction of a number with its point. -/
def fraction : List Char → List Char := marked (· == '.') (List.takeWhile Char.isDigit)

/-- The sign and the digits of an exponent, if there are digits. -/
def power (cs : List Char) : List Char :=
  let sign := oneOf (fun c => c == '+' || c == '-') cs
  let digits := (cs.drop sign.length).takeWhile Char.isDigit
  if digits.isEmpty then [] else sign ++ digits

/-- The exponent of a number with its letter. -/
def exponent : List Char → List Char := marked (fun c => c == 'e' || c == 'E') power

/-- A number at the start of a text: its characters, and whether it has a fraction or an exponent. -/
def takeNumber (cs : List Char) : Option (List Char × Bool) :=
  let sign := oneOf (· == '-') cs
  let body := cs.drop sign.length
  let whole := wholeDigits body
  if whole.isEmpty then none
  else
    let rest := body.drop whole.length
    let fraction := fraction rest
    let exponent := exponent (rest.drop fraction.length)
    some (sign ++ whole ++ fraction ++ exponent, !(fraction.isEmpty && exponent.isEmpty))

/-- The number that the characters of one denote. -/
def numberOf (cs : List Char) (isFloat : Bool) : Except Nat Json :=
  let (negative, body) := Numeral.takeSign cs
  if isFloat then
    .ok (.float (((Numeral.readScientific body).map (Numeral.nearest negative)).getD .nan))
  else if Numeral.digitLimit < body.length then .error body.length
  else .ok (.int (if negative then -(Numeral.natOf body : Int) else Numeral.natOf body))

/-! ### Tokens -/

/-- A token, or what is found in the place of one. -/
inductive Lexeme where
  | mark (c : Char)
  | text (points : CodePoints)
  | scalar (v : Json)
  | badText (defect : StringDefect) (place : Nat)
  | badNumber (digits : Nat)
  | junk

/-- A token and its place. -/
structure Token where
  lexeme : Lexeme
  place : Nat

/-- White space between tokens. -/
def isSpace (c : Char) : Bool := c == ' ' || c == '\t' || c == '\n' || c == '\r'

/-- The marks of lists and objects. -/
def isMark (c : Char) : Bool := ['[', ']', '{', '}', ',', ':'].contains c

/-- The words that are values. -/
def literals : List (List Char × Json) := [
  ("null".toList, .null), ("true".toList, .bool true), ("false".toList, .bool false),
  ("NaN".toList, .float .nan), ("Infinity".toList, .float (.infinite false)),
  ("-Infinity".toList, .float (.infinite true))]

/-- The token that begins with a character, and what follows it. -/
def takeLexeme (c : Char) (rest : List Char) : Lexeme × List Char :=
  if isMark c then (.mark c, rest)
  else if c == '"' then
    match readUnits [] rest with
    | .ok (units, after) => (.text (joinUnits units), after)
    | .error (.unterminated, _) => (.badText .unterminated (rest.length + 1), [])
    | .error (defect, place) => (.badText defect place, [])
  else match literals.find? fun (word, _) => word.isPrefixOf (c :: rest) with
    | some (word, v) => (.scalar v, rest.drop (word.length - 1))
    | none =>
      match takeNumber (c :: rest) with
      | some (digits, isFloat) =>
        let lexeme := match numberOf digits isFloat with
          | .ok v => .scalar v
          | .error count => .badNumber count
        (lexeme, rest.drop (digits.length - 1))
      | none => (.junk, [])

theorem takeLexeme_length_le (c : Char) (rest : List Char) :
    (takeLexeme c rest).2.length ≤ rest.length := by
  unfold takeLexeme
  split
  · exact Nat.le_refl _
  · split
    · split
      · next h => exact Nat.le_of_lt (readUnits_length h)
      · exact Nat.zero_le _
      · exact Nat.zero_le _
    · split
      · simp
      · split
        · simp
        · exact Nat.zero_le _

/-- The tokens of a text. -/
def tokens (cs : List Char) : List Token :=
  match _ : cs.dropWhile isSpace with
  | [] => []
  | c :: rest => ⟨(takeLexeme c rest).1, rest.length + 1⟩ :: tokens (takeLexeme c rest).2
termination_by cs.length
decreasing_by
  have h1 := takeLexeme_length_le c rest
  have h2 := (List.dropWhile_suffix (l := cs) isSpace).length_le
  simp_all
  omega

end OperatorConsole.Json
