import OperatorConsole.Charset.Grid
import OperatorConsole.Charset.Pages
import OperatorConsole.Charset.Reading

/-!
Sets of one byte for a character. A table gives the characters of all bytes, or of the bytes from 0x80
on in a set that is ASCII below.
-/
namespace OperatorConsole.Charset

/-- The table of a set. -/
inductive Page where
  | latin
  | ascii
  | upper (rows : List String)
  | whole (rows : List String)
  deriving DecidableEq, Repr

/-- The code point at a place of rows of sixteen. -/
def pointIn (rows : List String) (place : Nat) : Option Nat :=
  (rows[place / 16]?).bind fun row =>
    (row.toList[place % 16]?).bind fun c => if c == gap then none else some c.toNat

/-- The code point of a byte. -/
def Page.point? (byte : Nat) : Page → Option Nat
  | .latin => some byte
  | .ascii => asciiSingle byte
  | .upper rows => if byte < 0x80 then some byte else pointIn rows (byte - 0x80)
  | .whole rows => pointIn rows byte

/-- The text of bytes. -/
def Page.read (p : Page) (bytes : Bytes) : Decoded := bytes.map fun b => p.point? b.toNat

/-- The table of a name. -/
def Page.ofName? (name : String) : Option Page :=
  if ["latin_1", "iso8859_1", "charmap"].contains name then some .latin
  else if name == "ascii" then some .ascii
  else ((upperPages.lookup name).map .upper).or ((wholePages.lookup name).map .whole)

end OperatorConsole.Charset
