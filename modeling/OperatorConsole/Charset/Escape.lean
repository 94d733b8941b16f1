import OperatorConsole.Charset.Reading
import OperatorConsole.Text.Percent

/-!
Text of one byte for a character, in which a backslash begins the number of a code point or the name of
a control character. In raw text only two kinds of numbers count.
-/
namespace OperatorConsole.Charset

/-- The values of up to so many hexadecimal digits at the beginning of bytes. -/
def hexDigits (most : Nat) (bytes : Bytes) : List Nat :=
  ((bytes.take most).map fun b => Text.Percent.digitValue? (Char.ofNat b.toNat)).takeWhile
    Option.isSome |>.filterMap id

/-- What stands after a backslash and a letter: a code point of so many hexadecimal digits. -/
def numberStep (digits : Nat) (bytes : Bytes) : Reading :=
  let found := hexDigits digits bytes
  let point := found.foldl (fun n d => n * 16 + d) 0
  if found.length < digits then
    if found.length == bytes.length then .short else .bad (2 + found.length)
  else if 0x10FFFF < point then .bad (2 + digits)
  else .points [point] (2 + digits)

/-- The characters after a backslash that stand for another one. -/
def escapeLetters : List (Nat × Nat) := [
  (0x5C, 0x5C), (0x27, 0x27), (0x22, 0x22), (0x62, 8), (0x66, 12), (0x74, 9), (0x6E, 10), (0x72, 13),
  (0x76, 11), (0x61, 7)]

/-- A byte that is an octal digit. -/
def isOctal (b : UInt8) : Bool := 0x30 ≤ b && b ≤ 0x37

/-- What stands after a backslash and an `N`: a name between braces, of which none is known. -/
def namedStep : Bytes → Reading
  | [] => .short
  | open_ :: rest =>
    if open_ != 0x7B then .bad 2
    else
      let name := rest.takeWhile (· != 0x7D)
      if name.length == rest.length then .short
      else if name.isEmpty then .bad 3
      else .bad (4 + name.length)

/-- What stands at the beginning of text with all kinds of escapes. -/
def escapeStep : Bytes → Reading
  | [] => .short
  | a :: rest =>
    if a != 0x5C then .points [a.toNat] 1
    else match rest with
      | [] => .short
      | c :: after =>
        if c == 0x0A then .points [] 2
        else match escapeLetters.lookup c.toNat with
          | some point => .points [point] 2
          | none =>
            if isOctal c then
              let digits := ((c :: after).take 3).takeWhile isOctal
              .points [digits.foldl (fun n b => n * 8 + (b.toNat - 0x30)) 0] (1 + digits.length)
            else if c == 0x78 then numberStep 2 after
            else if c == 0x75 then numberStep 4 after
            else if c == 0x55 then numberStep 8 after
            else if c == 0x4E then namedStep after
            else .points [a.toNat, c.toNat] 2

/-- What stands at the beginning of raw text. -/
def rawStep : Bytes → Reading
  | [] => .short
  | a :: rest =>
    if a != 0x5C then .points [a.toNat] 1
    else match rest with
      | [] => .points [a.toNat] 1
      | c :: after =>
        if c == 0x75 then numberStep 4 after
        else if c == 0x55 then numberStep 8 after
        else .points [a.toNat, c.toNat] 2

/-- The text of bytes by what stands at their beginning; the beginning of an escape at the end cannot
be read. -/
def readEscapes (step : Bytes → Reading) : Nat → Bytes → Decoded
  | 0, _ => []
  | fuel + 1, bytes =>
    if bytes.isEmpty then []
    else match step bytes with
      | .points found count => found.map some ++ readEscapes step fuel (bytes.drop count)
      | .bad count => none :: readEscapes step fuel (bytes.drop count)
      | .short => [none]

end OperatorConsole.Charset
