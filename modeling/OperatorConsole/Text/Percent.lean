import OperatorConsole.Text.Utf8

/-!
Percent encoding. Writing spells every byte of the UTF-8 of a text that is not an unreserved
character or a slash by a percent sign and two capital hexadecimal digits. Reading turns such triples
back into bytes within each run of ASCII characters, and the bytes of a run into text.
-/
namespace OperatorConsole.Text.Percent

/-! ### Writing -/

/-- A nibble as a capital hexadecimal digit. -/
def hexDigit (n : Nat) : Char := Char.ofNat (if n < 10 then 0x30 + n else 0x37 + n)

/-- A byte that is written as the character it is in ASCII. -/
def isSafe (b : UInt8) : Bool :=
  let c := Char.ofNat b.toNat
  b < 0x80 && (c.isAlphanum || ['_', '.', '-', '~', '/'].contains c)

/-- A percent sign and the two digits of a byte. -/
def triple (b : UInt8) : List Char := ['%', hexDigit (b.toNat / 16), hexDigit (b.toNat % 16)]

/-- The text of bytes. -/
def encodeBytes (bytes : Bytes) : List Char :=
  bytes.flatMap fun b => if isSafe b then [Char.ofNat b.toNat] else triple b

/-- The text with its unsafe characters spelled out. -/
def encode (cs : List Char) : List Char := encodeBytes (Utf8.encode cs)

/-! ### Reading -/

/-- The value of a hexadecimal digit of either case. -/
def digitValue? (c : Char) : Option Nat :=
  if '0' ≤ c && c ≤ '9' then some (c.toNat - 0x30)
  else if 'A' ≤ c && c ≤ 'F' then some (c.toNat - 0x37)
  else if 'a' ≤ c && c ≤ 'f' then some (c.toNat - 0x57)
  else none

/-- The byte of two hexadecimal digits. -/
def byteOf? (a b : Char) : Option UInt8 := do
  return UInt8.ofNat (16 * (← digitValue? a) + (← digitValue? b))

/-- The bytes of ASCII characters; a percent sign without two digits stands for itself. -/
def bytesOf : List Char → Bytes
  | '%' :: a :: b :: rest =>
    match byteOf? a b with
    | some byte => byte :: bytesOf rest
    | none => 0x25 :: bytesOf (a :: b :: rest)
  | c :: rest => UInt8.ofNat c.toNat :: bytesOf rest
  | [] => []

/-- The text of a run of ASCII characters given in reverse. -/
def decodeRun (run : List Char) : List Char := Utf8.decodeLossy (bytesOf run.reverse)

/-- Reads on after a run of ASCII characters given in reverse. -/
def decodeFrom (run : List Char) : List Char → List Char
  | [] => decodeRun run
  | c :: rest =>
    if c.toNat < 0x80 then decodeFrom (c :: run) rest
    else decodeRun run ++ c :: decodeFrom [] rest

/-- The text with its triples read. -/
def decode (cs : List Char) : List Char := decodeFrom [] cs

end OperatorConsole.Text.Percent
