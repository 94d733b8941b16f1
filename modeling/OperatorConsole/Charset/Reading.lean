import OperatorConsole.Text.Utf8

/-!
Reading of text in a character set. Bytes give code points, which may be halves of surrogate pairs;
what cannot be read has a place of its own in the result. A set is given by what stands at the
beginning of bytes, and reading goes on after it.
-/
namespace OperatorConsole.Charset

/-- Code points in order; nothing stands for what cannot be read. -/
abbrev Decoded := List (Option Nat)

/-- Why text cannot be read at all. -/
inductive Fault where
  /-- No mark says in which order bytes stand. -/
  | noMark (bits : Nat)
  /-- Too many bytes wait for more. -/
  | longRest
  /-- A byte is not ASCII. -/
  | notAscii (byte place : Nat)
  /-- The set does not go on after what cannot be read. -/
  | strictOnly
  /-- The set has no characters. -/
  | nothing
  /-- The name is one of a coding of bytes and not of a set. -/
  | bytesOnly
  /-- The name is one of a coding of text and not of a set. -/
  | textOnly
  deriving DecidableEq, Repr

/-- The report on text that cannot be read. -/
def Fault.message : Fault → String
  | .noMark bits => s!"UTF-{bits} stream does not start with BOM"
  | .longRest => "pending buffer overflow"
  | .notAscii byte place =>
    let digits := (Nat.toDigits 16 byte)
    s!"'ascii' codec can't decode byte 0x{String.ofList digits} in position {place}: " ++
      "ordinal not in range(128)"
  | .strictOnly => "Unsupported error handling replace"
  | .nothing => "undefined encoding"
  | .bytesOnly => ""
  | .textOnly => "descriptor 'translate' for 'str' objects doesn't apply to a 'bytes' object"

/-- What stands at the beginning of bytes. -/
inductive Reading where
  /-- Code points, and how many bytes they take. -/
  | points (found : List Nat) (count : Nat)
  /-- So many bytes cannot be read. -/
  | bad (count : Nat)
  /-- The bytes are the beginning of more. -/
  | short
  deriving DecidableEq, Repr

/-- Some code points of so many bytes, or else one byte that cannot be read. -/
def Reading.ofPoints? (found : Option (List Nat)) (count : Nat) : Reading :=
  match found with
  | some ps => .points ps count
  | none => .bad 1

/-- Some code point of so many bytes, or else one byte that cannot be read. -/
def Reading.ofPoint? (found : Option Nat) (count : Nat) : Reading :=
  .ofPoints? (found.map ([·])) count

/-- The most bytes that may wait for more. -/
def maxWaiting : Nat := 8

/-- Reads bytes by what stands at their beginning in a state, at most `fuel` times. -/
def readFrom {σ : Type} (step : σ → Bytes → Reading × σ) : Nat → σ → Bytes → Except Fault Decoded
  | 0, _, _ => .ok []
  | fuel + 1, state, bytes =>
    if bytes.isEmpty then .ok []
    else match step state bytes with
      | (.points found count, next) =>
        (readFrom step fuel next (bytes.drop count)).map (found.map some ++ ·)
      | (.bad count, next) => (readFrom step fuel next (bytes.drop count)).map (none :: ·)
      | (.short, _) => if maxWaiting < bytes.length then .error .longRest else .ok [none]

/-- Reads bytes by what stands at their beginning in a state; every step takes some. -/
def readAll {σ : Type} (step : σ → Bytes → Reading × σ) (start : σ) (bytes : Bytes) :
    Except Fault Decoded :=
  readFrom step bytes.length start bytes

/-- Reads bytes by what stands at their beginning. -/
def readPlain (step : Bytes → Reading) (bytes : Bytes) : Except Fault Decoded :=
  readAll (fun _ bytes => (step bytes, ())) () bytes

/-! ### Sets of one or two bytes for a character -/

/-- A set of one or two bytes for a character: a byte with a character of its own stands alone. -/
structure Pairs where
  single : Nat → Option Nat
  pair : Nat → Nat → Option (List Nat)

/-- What stands at the beginning of bytes in a set of one or two bytes for a character. -/
def Pairs.step (p : Pairs) : Bytes → Reading
  | [] => .short
  | a :: rest =>
    match p.single a.toNat, rest with
    | some point, _ => .points [point] 1
    | none, [] => .short
    | none, b :: _ => .ofPoints? (p.pair a.toNat b.toNat) 2

/-- A byte that is ASCII stands for itself. -/
def asciiSingle (a : Nat) : Option Nat := if a < 0x80 then some a else none

end OperatorConsole.Charset
