import OperatorConsole.Packed.Blocks
import OperatorConsole.Packed.Checksum

/-!
Frames of packed content. Blocks stand alone, or between a header and a checksum of what they hold; a
header may be short, or one of a file, which has room for a name and remarks. Content that breaks off
gives what was unpacked up to there, and nothing after the frame counts.
-/
namespace OperatorConsole.Packed

/-- What stands around blocks. -/
inductive Frame where
  | none
  | short
  | file
  deriving DecidableEq, Repr

/-! ### Short frames -/

/-- Takes a number of so many bytes, the highest first. -/
def takeBig (n : Nat) : Unpack Nat := do
  return (← takeBytes n).foldl (fun number byte => number * 256 + byte.toNat) 0

/-- Takes a number of so many bytes, the lowest first. -/
def takeLittle (n : Nat) : Unpack Nat := do
  return (← takeBytes n).foldr (fun byte number => byte.toNat + number * 256) 0

/-- Takes a short header: the method, the size of the window and whether other content goes before;
both bytes in one number are a multiple of 31. -/
def takeShortHeader : Unpack Unit := do
  let header ← takeBig 2
  let (first, second) := (header / 256, header % 256)
  if header % 31 ≠ 0 then refuse .frame
  if first % 16 ≠ 8 then refuse .method
  if 7 < first / 16 then refuse .window
  if second.testBit 5 then
    let _ ← takeBytes 4
    refuse .preset

/-- Takes the checksum after blocks. -/
def takeSums : Unpack Unit := do
  let expected ← takeBig 4
  if expected ≠ sums (← get).written.toList then refuse .sum

/-! ### Frames of files -/

/-- Takes bytes up to a zero, so many at most. -/
def skipText : Nat → Unpack Unit
  | 0 => throw .breaksOff
  | n + 1 => do
    if (← takeByte) != 0 then skipText n

/-- Takes the header of a file; `all` is the content from the header on. -/
def takeFileHeader (all : Bytes) : Unpack Unit := do
  if (← takeLittle 2) ≠ 0x8B1F then refuse .frame
  let flags ← takeLittle 2
  if flags % 256 ≠ 8 then refuse .method
  if 0x2000 ≤ flags then refuse .flags
  let _ ← takeBytes 6
  if flags.testBit 10 then
    let _ ← takeBytes (← takeLittle 2)
  if flags.testBit 11 then skipText (all.length + 1)
  if flags.testBit 12 then skipText (all.length + 1)
  if flags.testBit 9 then
    let header := all.take (all.length - (← get).bytes.length)
    let expected ← takeLittle 2
    if expected ≠ (remainder header).toNat % 65536 then refuse .headerSum

/-- Takes the checksum and the size after blocks. -/
def takeFileEnd : Unpack Unit := do
  let expected ← takeLittle 4
  let written := (← get).written
  if expected ≠ (remainder written.toList).toNat then refuse .sum
  if (← takeLittle 4) ≠ written.size % 0x100000000 then refuse .size

/-! ### Unpacking -/

/-- Unpacks what stands in a frame. -/
def Frame.write (bytes : Bytes) : Frame → Unpack Unit
  | .none => writeAll
  | .short => do takeShortHeader; writeAll; takeSums
  | .file => do takeFileHeader bytes; writeAll; takeFileEnd

/-- The content that is packed in a frame. -/
def Frame.unpack (frame : Frame) (bytes : Bytes) : Except Fault Bytes :=
  match (frame.write bytes).run.run ⟨[], bytes, #[]⟩ with
  | (.error (.fault fault), _) => .error fault
  | (_, u) => .ok u.written.toList

end OperatorConsole.Packed
