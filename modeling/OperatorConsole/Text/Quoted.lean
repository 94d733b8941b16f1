import OperatorConsole.Text.Printable
import OperatorConsole.Text.Utf8

/-!
Quoted text. A text is shown between single quotes, or between double quotes when it holds single
ones and no double one; a backslash, the quote, tab, line feed and carriage return are shown with a
backslash, and every other character that is not printable by its code point in hexadecimal.
-/
namespace OperatorConsole.Text.Quoted

/-- The last `width` hexadecimal digits of a number. -/
def hex : Nat → Nat → List Char
  | 0, _ => []
  | width + 1, n => hex width (n / 16) ++ [Utf8.hexDigit (n % 16)]

/-- A code point with a backslash and as many digits as it needs. -/
def escapeCode (n : Nat) : List Char :=
  if n < 0x100 then '\\' :: 'x' :: hex 2 n
  else if n < 0x10000 then '\\' :: 'u' :: hex 4 n
  else '\\' :: 'U' :: hex 8 n

/-- One character inside quotes. -/
def encodeChar (quote c : Char) : List Char :=
  if c == quote || c == '\\' then ['\\', c]
  else if c == '\n' then ['\\', 'n']
  else if c == '\r' then ['\\', 'r']
  else if c == '\t' then ['\\', 't']
  else if isPrintable c then [c]
  else escapeCode c.toNat

/-- The quote that a text is shown between. -/
def quoteOf (cs : List Char) : Char :=
  if cs.contains '\'' && !cs.contains '"' then '"' else '\''

/-- The text between quotes. -/
def encode (cs : List Char) : List Char :=
  quoteOf cs :: cs.flatMap (encodeChar (quoteOf cs)) ++ [quoteOf cs]

end OperatorConsole.Text.Quoted

namespace OperatorConsole

/-- The text between quotes. -/
def quoted (s : String) : String := String.ofList (Text.Quoted.encode s.toList)

end OperatorConsole
