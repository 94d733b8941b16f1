import OperatorConsole.Packed.Code
import OperatorConsole.Text.Utf8

/-!
Blocks of packed content. A block holds bytes as they are, or symbols in a code of bits: a symbol is a
byte, the end of the block, or the length of a piece that repeats what was written some way back. The
codes are fixed ones or stand in front of the block, in a code of their own. Content that breaks off
gives what was written up to there.
-/
namespace OperatorConsole.Packed

/-- Why content cannot be unpacked. -/
inductive Fault where
  | frame
  | method
  | window
  | flags
  | headerSum
  | sum
  | size
  /-- The content goes on from other content that is not at hand. -/
  | preset
  | blockKind
  | storedSize
  | tooManySymbols
  | lengthCode
  | lengthRun
  | noEnd
  | symbolCode
  | distanceCode
  | symbol
  | distance
  | tooFarBack
  deriving DecidableEq, Repr

/-- What is wrong with content that cannot be unpacked; nothing is said of content that is missing. -/
def Fault.reason? : Fault → Option String
  | .frame => "incorrect header check"
  | .method => "unknown compression method"
  | .window => "invalid window size"
  | .flags => "unknown header flags set"
  | .headerSum => "header crc mismatch"
  | .sum => "incorrect data check"
  | .size => "incorrect length check"
  | .preset => none
  | .blockKind => "invalid block type"
  | .storedSize => "invalid stored block lengths"
  | .tooManySymbols => "too many length or distance symbols"
  | .lengthCode => "invalid code lengths set"
  | .lengthRun => "invalid bit length repeat"
  | .noEnd => "invalid code -- missing end-of-block"
  | .symbolCode => "invalid literal/lengths set"
  | .distanceCode => "invalid distances set"
  | .symbol => "invalid literal/length code"
  | .distance => "invalid distance code"
  | .tooFarBack => "invalid distance too far back"

/-- The report on content that cannot be unpacked. -/
def Fault.message (fault : Fault) : String :=
  match fault.reason? with
  | some reason => s!"Error -3 while decompressing data: {reason}"
  | none => "Error 2 while decompressing data"

/-- Why unpacking stops: the content breaks off, or it is faulty. -/
inductive Stop where
  | breaksOff
  | fault (f : Fault)
  deriving DecidableEq, Repr

/-- What is left of the packed content, and what is unpacked. -/
structure Unpacking where
  /-- The bits that are left of the byte that was begun, the lowest first. -/
  bits : List Bool
  bytes : Bytes
  written : Array UInt8

/-- A step of unpacking. -/
abbrev Unpack := ExceptT Stop (StateM Unpacking)

/-! ### Bits and bytes -/

/-- The bits of a byte, the lowest first. -/
def bitsOf (b : UInt8) : List Bool := (List.range 8).map b.toNat.testBit

/-- Takes one bit. -/
def takeBit : Unpack Bool := do
  let u ← get
  match u.bits, u.bytes with
  | bit :: bits, _ => set { u with bits := bits }; return bit
  | [], byte :: bytes =>
    set { u with bits := (bitsOf byte).drop 1, bytes := bytes }
    return byte.toNat.testBit 0
  | [], [] => throw .breaksOff

/-- Takes a number of so many bits, the lowest first. -/
def takeBits : Nat → Unpack Nat
  | 0 => return 0
  | n + 1 => do
    let bit ← takeBit
    return bit.toNat + 2 * (← takeBits n)

/-- Leaves the rest of the byte that was begun. -/
def alignBytes : Unpack Unit := modify fun u => { u with bits := [] }

/-- Takes a whole byte. -/
def takeByte : Unpack UInt8 := do
  let u ← get
  match u.bytes with
  | byte :: bytes => set { u with bytes := bytes }; return byte
  | [] => throw .breaksOff

/-- Takes so many bytes. -/
def takeBytes : Nat → Unpack Bytes
  | 0 => return []
  | n + 1 => do
    let byte ← takeByte
    return byte :: (← takeBytes n)

/-- Writes a byte. -/
def writeByte (b : UInt8) : Unpack Unit := modify fun u => { u with written := u.written.push b }

/-- Fails. -/
def refuse {α : Type} (f : Fault) : Unpack α := throw (.fault f)

/-! ### Symbols -/

/-- Takes bits up to a word: `word` is what was taken, `first` the first word of the next length, and
`place` the place of its symbol. A text of bits that no word begins is refused by none. -/
def Code.takeFrom (symbols : Array Nat) (word first place : Nat) : List Nat → Unpack (Option Nat)
  | [] => return none
  | count :: counts => do
    let word := 2 * word + (← takeBit).toNat
    if word < first + count then return symbols[place + (word - first)]?
    else Code.takeFrom symbols word (2 * (first + count)) (place + count) counts

/-- Takes the symbol of a word. -/
def Code.take (c : Code) : Unpack (Option Nat) := Code.takeFrom c.symbols 0 0 0 c.counts

/-- The symbols and the distances of a block. -/
structure Codes where
  symbols : Code
  distances : Code

/-- The codes of blocks that have none of their own. -/
def Codes.fixed : Codes where
  symbols := Code.ofLengths <|
    List.replicate 144 8 ++ List.replicate 112 9 ++ List.replicate 24 7 ++ List.replicate 8 8
  distances := Code.ofLengths (List.replicate 32 5)

/-- The symbol that ends a block. -/
def endSymbol : Nat := 256

/-- The least length of a symbol after the end, and the bits that are added to it. -/
def lengthTable : List (Nat × Nat) := [
  (3, 0), (4, 0), (5, 0), (6, 0), (7, 0), (8, 0), (9, 0), (10, 0), (11, 1), (13, 1), (15, 1), (17, 1),
  (19, 2), (23, 2), (27, 2), (31, 2), (35, 3), (43, 3), (51, 3), (59, 3), (67, 4), (83, 4), (99, 4),
  (115, 4), (131, 5), (163, 5), (195, 5), (227, 5), (258, 0)]

/-- The least distance of a symbol, and the bits that are added to it. -/
def distanceTable : List (Nat × Nat) := [
  (1, 0), (2, 0), (3, 0), (4, 0), (5, 1), (7, 1), (9, 2), (13, 2), (17, 3), (25, 3), (33, 4), (49, 4),
  (65, 5), (97, 5), (129, 6), (193, 6), (257, 7), (385, 7), (513, 8), (769, 8), (1025, 9), (1537, 9),
  (2049, 10), (3073, 10), (4097, 11), (6145, 11), (8193, 12), (12289, 12), (16385, 13), (24577, 13)]

/-- Takes the number that an entry of a table stands for. -/
def takeEntry (entry : Option (Nat × Nat)) (fault : Fault) : Unpack Nat :=
  match entry with
  | some (least, extra) => return least + (← takeBits extra)
  | none => refuse fault

/-- Writes again so many bytes from some way back. -/
def repeatBack (distance : Nat) : Nat → Unpack Unit
  | 0 => return
  | n + 1 => do
    let u ← get
    writeByte (u.written.getD (u.written.size - distance) 0)
    repeatBack distance n

/-- Writes what a symbol after the end stands for. -/
def writePiece (codes : Codes) (symbol : Nat) : Unpack Unit := do
  let length ← takeEntry lengthTable[symbol - endSymbol - 1]? .symbol
  let place ← codes.distances.take
  let distance ← takeEntry (place.bind (distanceTable[·]?)) .distance
  if (← get).written.size < distance then refuse .tooFarBack
  repeatBack distance length

/-- Writes the symbols of a block up to its end, so many at most. -/
def writeSymbols (codes : Codes) : Nat → Unpack Unit
  | 0 => throw .breaksOff
  | n + 1 => do
    match ← codes.symbols.take with
    | none => refuse .symbol
    | some symbol =>
      if symbol = endSymbol then return
      if symbol < endSymbol then writeByte (UInt8.ofNat symbol) else writePiece codes symbol
      writeSymbols codes n

/-! ### Codes in front of a block -/

/-- The order in which the lengths of the code for lengths stand. -/
def lengthOrder : List Nat := [16, 17, 18, 0, 8, 7, 9, 6, 10, 5, 11, 4, 12, 3, 13, 2, 14, 1, 15]

/-- Takes the lengths of words, `total` in all; `found` are those so far, reversed. A symbol repeats
the last length or zero; where no word begins, one is nothing. -/
def takeLengths (code : Code) (total : Nat) : Nat → List Nat → Unpack (List Nat)
  | 0, _ => throw .breaksOff
  | n + 1, found => do
    if total ≤ found.length then return found.reverse
    let (length, count) ← do
      match (← code.take).getD 0 with
      | 16 =>
        match found with
        | [] => let _ ← takeBits 2; refuse .lengthRun
        | last :: _ => pure (last, 3 + (← takeBits 2))
      | 17 => pure (0, 3 + (← takeBits 3))
      | 18 => pure (0, 11 + (← takeBits 7))
      | length => pure (length, 1)
    if total < found.length + count then refuse .lengthRun
    takeLengths code total n (List.replicate count length ++ found)

/-- Takes the codes in front of a block. -/
def takeCodes : Unpack Codes := do
  let symbols := 257 + (← takeBits 5)
  let distances := 1 + (← takeBits 5)
  let given := 4 + (← takeBits 4)
  if 286 < symbols || 30 < distances then refuse .tooManySymbols
  let ordered ← (List.range given).mapM fun _ => takeBits 3
  let code := Code.ofLengths <| (List.range lengthOrder.length).map fun symbol =>
    ordered.getD (lengthOrder.idxOf symbol) 0
  if !code.isAllowed false then refuse .lengthCode
  let lengths ← takeLengths code (symbols + distances) (symbols + distances + 1) []
  if lengths.getD endSymbol 0 = 0 then refuse .noEnd
  let codes : Codes := ⟨.ofLengths (lengths.take symbols), .ofLengths (lengths.drop symbols)⟩
  if !codes.symbols.isAllowed true then refuse .symbolCode
  if !codes.distances.isAllowed true then refuse .distanceCode
  return codes

/-! ### Blocks -/

/-- Writes so many bytes as they are. -/
def writeStored : Nat → Unpack Unit
  | 0 => return
  | n + 1 => do
    writeByte (← takeByte)
    writeStored n

/-- Writes a block; `most` is more than its symbols. -/
def writeBlock (most kind : Nat) : Unpack Unit :=
  match kind with
  | 0 => do
    alignBytes
    let size ← takeBits 16
    let inverse ← takeBits 16
    if size + inverse ≠ 0xFFFF then refuse .storedSize
    writeStored size
  | 1 => writeSymbols .fixed most
  | 2 => do writeSymbols (← takeCodes) most
  | _ => refuse .blockKind

/-- Writes blocks up to the last one, so many at most; `most` is more than the symbols of each. -/
def writeBlocks (most : Nat) : Nat → Unpack Unit
  | 0 => throw .breaksOff
  | n + 1 => do
    let last ← takeBit
    writeBlock most (← takeBits 2)
    if last then alignBytes else writeBlocks most n

/-- Writes all blocks. Each of them and each symbol takes a bit, so there are fewer than bits. -/
def writeAll : Unpack Unit := do
  let bits := 8 * (← get).bytes.length + 8
  writeBlocks bits bits

end OperatorConsole.Packed
