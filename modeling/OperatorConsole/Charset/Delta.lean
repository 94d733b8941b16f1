import OperatorConsole.Charset.Reading
import OperatorConsole.Web.HostName.Punycode

/-!
Text that is written as for a host: its ASCII characters, and after the last hyphen numbers that say
where the others go. Numbers after one that cannot be read are left out.
-/
namespace OperatorConsole.Charset

open HostName.Punycode

/-- Puts the code points that numbers stand for into a text; `point` and `place` say where the last
one went, and `first` that none went anywhere. At most `fuel` of them are put in. -/
def putPoints (bias point place : Nat) (first : Bool) (text : Decoded) :
    Nat → List Char → Decoded
  | 0, _ => text
  | fuel + 1, cs =>
    match readNumber bias cs 36 1 place with
    | none => text
    | some (total, after) =>
      let count := text.length + 1
      let point := point + total / count
      let point := if 0x10FFFF < point then '?'.toNat else point
      putPoints (adapt (total - place) count first) point (total % count + 1) false
        (text.insertIdx (total % count) (some point)) fuel after

/-- The text of bytes. -/
def readDelta (bytes : Bytes) : Except Fault Decoded :=
  let numbers := (bytes.reverse.takeWhile (· != 0x2D)).reverse
  let base := (bytes.take (bytes.length - numbers.length)).dropLast
  match numbers.find? (0x80 ≤ ·) with
  | some b => .error (.notAscii b.toNat (numbers.takeWhile (· < 0x80)).length)
  | none =>
    .ok (putPoints 72 0x80 0 true (base.map fun b => if b < 0x80 then some b.toNat else none)
      numbers.length (numbers.map fun b => Char.ofNat b.toNat))

end OperatorConsole.Charset
