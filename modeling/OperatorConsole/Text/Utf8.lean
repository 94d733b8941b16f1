/-!
UTF-8: the bytes of a text, and the text of bytes. Reading goes piece by piece; a piece is one
character or one defect, a defect being the longest run of bytes that begins a character and cannot
be finished. Strict reading stops at the first defect, lossy reading puts U+FFFD for each.
-/
namespace OperatorConsole

/-- Raw content. -/
abbrev Bytes := List UInt8

namespace Utf8

/-! ### Writing -/

/-- The bytes of one character. -/
def encodeChar (c : Char) : Bytes :=
  let n := c.toNat
  let tail (shift : Nat) : UInt8 := UInt8.ofNat (0x80 + n / Nat.pow 2 shift % 0x40)
  if n < 0x80 then [UInt8.ofNat n]
  else if n < 0x800 then [UInt8.ofNat (0xC0 + n / 0x40), tail 0]
  else if n < 0x10000 then [UInt8.ofNat (0xE0 + n / 0x1000), tail 6, tail 0]
  else [UInt8.ofNat (0xF0 + n / 0x40000), tail 12, tail 6, tail 0]

/-- The bytes of a text. -/
def encode (cs : List Char) : Bytes := cs.flatMap encodeChar

/-! ### Reading -/

/-- What is wrong with a run of bytes. -/
inductive Defect where
  | start
  | continuation
  | truncated
  deriving DecidableEq, Repr

/-- One character and the number of bytes after its first, or the bytes of one defect. -/
inductive Piece where
  | char (c : Char) (more : Nat)
  | defect (d : Defect) (first : UInt8) (others : Bytes)
  deriving DecidableEq, Repr

/-- The number of bytes after the first. -/
def Piece.more : Piece → Nat
  | .char _ n => n
  | .defect _ _ others => others.length

/-- The byte lies between two bounds. -/
def within (low high b : UInt8) : Bool := low ≤ b && b ≤ high

/-- The six bits that a byte after the first carries. -/
def payload (b : UInt8) : Nat := b.toNat % 0x40

/-- The bounds of the second byte after a first one. -/
def secondBounds (b : UInt8) : UInt8 × UInt8 :=
  if b = 0xE0 then (0xA0, 0xBF)
  else if b = 0xED then (0x80, 0x9F)
  else if b = 0xF0 then (0x90, 0xBF)
  else if b = 0xF4 then (0x80, 0x8F)
  else (0x80, 0xBF)

/-- Reads the bytes after the first, of which `need` are missing and `others` are read. -/
def continueChar (first : UInt8) (bounds : UInt8 × UInt8) (value : Nat) (others : Bytes) :
    Nat → Bytes → Piece
  | 0, _ => .char (Char.ofNat value) others.length
  | _ + 1, [] => .defect .truncated first others
  | need + 1, b :: rest =>
    if within bounds.1 bounds.2 b then
      continueChar first (0x80, 0xBF) (value * 0x40 + payload b) (others ++ [b]) need rest
    else .defect .continuation first others

/-- The piece that begins with a byte. -/
def piece (b : UInt8) (rest : Bytes) : Piece :=
  if b < 0x80 then .char (Char.ofNat b.toNat) 0
  else if within 0xC2 0xDF b then continueChar b (secondBounds b) (b.toNat - 0xC0) [] 1 rest
  else if within 0xE0 0xEF b then continueChar b (secondBounds b) (b.toNat - 0xE0) [] 2 rest
  else if within 0xF0 0xF4 b then continueChar b (secondBounds b) (b.toNat - 0xF0) [] 3 rest
  else .defect .start b []

/-- The pieces of a content, in order. -/
def pieces : Bytes → List Piece
  | [] => []
  | b :: rest =>
    let p := piece b rest
    p :: pieces (rest.drop p.more)
termination_by bytes => bytes.length
decreasing_by simp only [List.length_drop, List.length_cons]; omega

/-- The text with U+FFFD for each defect. -/
def decodeLossy (bytes : Bytes) : List Char :=
  (pieces bytes).map fun
    | .char c _ => c
    | .defect .. => Char.ofNat 0xFFFD

/-- A defect and where it stands. -/
structure Fault where
  defect : Defect
  bytes : Bytes
  position : Nat
  deriving DecidableEq, Repr

/-- The text of pieces, the first of which stands at `position`. -/
def readPieces (position : Nat) : List Piece → Except Fault (List Char)
  | [] => .ok []
  | .char c more :: rest => (c :: ·) <$> readPieces (position + more + 1) rest
  | .defect d first others :: _ => .error ⟨d, first :: others, position⟩

/-- The text of a content without defects, else the first defect. -/
def decode (bytes : Bytes) : Except Fault (List Char) := readPieces 0 (pieces bytes)

/-- The byte-order mark as bytes. -/
def mark : Bytes := [0xEF, 0xBB, 0xBF]

/-- The content without a byte-order mark at its start. -/
def dropMark (bytes : Bytes) : Bytes := if mark.isPrefixOf bytes then bytes.drop 3 else bytes

/-- The content without a byte-order mark at its start, not even the beginning of one. -/
def withoutMark (bytes : Bytes) : Bytes :=
  if bytes.length < mark.length && bytes.isPrefixOf mark then [] else dropMark bytes

/-- A nibble as a small hexadecimal digit. -/
def hexDigit (n : Nat) : Char := Char.ofNat (if n < 10 then 0x30 + n else 0x57 + n)

/-- The two hexadecimal digits of a byte. -/
def hexByte (b : UInt8) : List Char := [hexDigit (b.toNat / 16), hexDigit (b.toNat % 16)]

/-- What a defect is called. -/
def Defect.text : Defect → String
  | .start => "invalid start byte"
  | .continuation => "invalid continuation byte"
  | .truncated => "unexpected end of data"

/-- The report on a content that is not UTF-8. -/
def Fault.message (fault : Fault) : String :=
  let place := match fault.bytes with
    | [b] => s!"byte 0x{String.ofList (hexByte b)} in position {fault.position}"
    | bytes => s!"bytes in position {fault.position}-{fault.position + bytes.length - 1}"
  s!"'utf-8' codec can't decode {place}: {fault.defect.text}"

end Utf8

end OperatorConsole
