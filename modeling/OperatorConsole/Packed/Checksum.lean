import OperatorConsole.Text.Utf8

/-!
Checksums of bytes. One is the remainder of the bytes as a polynomial over two elements; the other
sums the bytes and the sums themselves.
-/
namespace OperatorConsole.Packed

/-! ### Remainder -/

/-- The polynomial that is divided by, its lowest power in the highest bit. -/
def divisor : UInt32 := 0xEDB88320

/-- The remainder after one more bit. -/
def shiftRemainder (r : UInt32) : UInt32 := if r &&& 1 == 1 then (r >>> 1) ^^^ divisor else r >>> 1

/-- The remainder after one more byte. -/
def feedRemainder (r : UInt32) (b : UInt8) : UInt32 :=
  Nat.repeat shiftRemainder 8 (r ^^^ b.toUInt32)

/-- The remainder of bytes; it starts and ends inverted. -/
def remainder (bytes : Bytes) : UInt32 := bytes.foldl feedRemainder 0xFFFFFFFF ^^^ 0xFFFFFFFF

/-! ### Sums -/

/-- The largest prime below two to the sixteenth. -/
def sumBase : Nat := 65521

/-- The sum of the bytes and the sum of these sums after one more byte. -/
def feedSums (s : Nat × Nat) (b : UInt8) : Nat × Nat :=
  let low := (s.1 + b.toNat) % sumBase
  (low, (s.2 + low) % sumBase)

/-- Both sums of bytes in one number. -/
def sums (bytes : Bytes) : Nat :=
  let (low, high) := bytes.foldl feedSums (1, 0)
  high * 65536 + low

theorem remainder_nil : remainder [] = 0 := rfl

theorem sums_nil : sums [] = 1 := rfl

end OperatorConsole.Packed
