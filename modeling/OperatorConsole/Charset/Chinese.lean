import OperatorConsole.Charset.ChineseTable
import OperatorConsole.Charset.Reading
import OperatorConsole.Charset.TaiwaneseTable

/-!
Chinese sets. The sets of Mainland China grow out of a grid of common characters: the second set adds
all other ideographs in the order of their code points, and the third one everything else by numbers of
four bytes. The sets of Taiwan and Hong Kong have grids of their own.
-/
namespace OperatorConsole.Charset

/-! ### Mainland China -/

/-- The code point of a pair of bytes of the first set. -/
def hanziPair? (a b : Nat) : Option Nat :=
  if a < 0x80 || b < 0x80 then none else hanziGrid.find? (a - 0x80) (b - 0x80)

/-- The first set. -/
def mainland : Pairs where
  single := asciiSingle
  pair a b := (hanziPair? a b).map ([·])

/-- The ideographs of the first set. -/
def commonHanzi : List Nat :=
  (hanziGrid.filter fun (row, _, _) => 0x30 ≤ row && row ≤ 0x77).flatMap fun (_, _, run) =>
    run.toList.map Char.toNat

/-- Ideographs at the end of the second set that stand apart from the others. -/
def apartHanzi : List Nat := [
  0xF92C, 0xF979, 0xF995, 0xF9E7, 0xF9F1, 0xFA0C, 0xFA0D, 0xFA0E, 0xFA0F, 0xFA11, 0xFA13, 0xFA14, 0xFA18,
  0xFA1F, 0xFA20, 0xFA21, 0xFA23, 0xFA24, 0xFA27, 0xFA28, 0xFA29]

/-- The ideographs that the second set adds, in order. -/
def rareHanzi : List Nat :=
  pointsBeyond 20902 0x4E00 (commonHanzi.mergeSort (· ≤ ·)) ++ apartHanzi

/-- The place of a second byte from 0x40 on. -/
def bytePlace (b : Nat) : Nat := if b < 0x7F then b - 0x40 else b - 0x41

/-- The rare ideograph of a pair of bytes: rows of 190, and of 96 where other characters stand
beside. -/
def rareHanzi? (a b : Nat) : Option Nat :=
  if b < 0x40 || b == 0x7F || 0xFE < b then none
  else if 0x81 ≤ a && a ≤ 0xA0 then rareHanzi[190 * (a - 0x81) + bytePlace b]?
  else if 0xAA ≤ a && a ≤ 0xFE && b ≤ 0xA0 then rareHanzi[190 * 32 + 96 * (a - 0xAA) + bytePlace b]?
  else none

/-- The code point of a pair of bytes of the second set. -/
def widePair? (a b : Nat) : Option Nat :=
  ((moreHanziGrid.find? a b).or (hanziPair? a b)).or (rareHanzi? a b)

/-- The second set. -/
def wideMainland : Pairs where
  single := asciiSingle
  pair a b := (widePair? a b).map ([·])

/-- The private code point of a pair of bytes of the third set. -/
def privatePair? (a b : Nat) : Option Nat :=
  if 0xAA ≤ a && a ≤ 0xAF && 0xA1 ≤ b && b ≤ 0xFE then some (0xE000 + 94 * (a - 0xAA) + (b - 0xA1))
  else if 0xF8 ≤ a && a ≤ 0xFE && 0xA1 ≤ b && b ≤ 0xFE then
    some (0xE234 + 94 * (a - 0xF8) + (b - 0xA1))
  else if 0xA1 ≤ a && a ≤ 0xA7 && 0x40 ≤ b && b ≤ 0xA0 && b != 0x7F then
    some (0xE4C6 + 96 * (a - 0xA1) + bytePlace b)
  else none

/-- The numbers of four bytes that stand for code points below 0x10000. -/
def numberedCount : Nat := 39420

/-- The code point of the four bytes of a number. -/
def numbered? (a b c d : Nat) : Option Nat :=
  if a < 0x81 || 0xFE < a || c < 0x81 || 0xFE < c || d < 0x30 || 0x39 < d then none
  else
    let number := (((a - 0x81) * 10 + (b - 0x30)) * 126 + (c - 0x81)) * 10 + (d - 0x30)
    if number < numberedCount then
      (numberedRuns.reverse.find? (·.1 ≤ number)).map fun (first, point) => point + (number - first)
    else if 15 * 12600 ≤ number && number - 15 * 12600 < 0x100000 then
      some (0x10000 + (number - 15 * 12600))
    else none

/-- What stands at the beginning of bytes of the third set. -/
def fullMainlandStep : Bytes → Reading
  | [] => .short
  | a :: rest =>
    if a < 0x80 then .points [a.toNat] 1
    else match rest with
      | [] => .short
      | b :: rest =>
        if 0x30 ≤ b && b ≤ 0x39 then
          match rest with
          | c :: d :: _ => .ofPoint? (numbered? a.toNat b.toNat c.toNat d.toNat) 4
          | _ => .short
        else
          let (a, b) := (a.toNat, b.toNat)
          .ofPoint? (((widePair? a b).or (privatePair? a b)).or (lastHanziGrid.find? a b)) 2

/-- What stands at the beginning of bytes of which all are ASCII; a tilde with a brace turns to rows and
columns of the first set, and back. -/
def tildeStep (inRows : Bool) : Bytes → Reading × Bool
  | [] => (.short, inRows)
  | a :: rest =>
    if a == 0x7E then
      match rest with
      | [] => (.short, inRows)
      | b :: _ =>
        if inRows then if b == 0x7D then (.points [] 2, false) else (.bad 1, inRows)
        else if b == 0x7E then (.points [0x7E] 2, inRows)
        else if b == 0x7B then (.points [] 2, true)
        else if b == 0x0A then (.points [] 2, inRows)
        else (.bad 1, inRows)
    else if 0x80 ≤ a then (.bad 1, inRows)
    else if !inRows then (.points [a.toNat] 1, inRows)
    else match rest with
      | [] => (.short, inRows)
      | b :: _ => (.ofPoint? (hanziGrid.find? a.toNat b.toNat) 2, inRows)

/-! ### Taiwan and Hong Kong -/

/-- The set of Taiwan. -/
def traditional : Pairs where
  single := asciiSingle
  pair a b := (traditionalGrid.find? a b).map ([·])

/-- The set of Taiwan of Windows. -/
def windowsTraditional : Pairs where
  single := asciiSingle
  pair a b := ((windowsTraditionalGrid.find? a b).or (traditionalGrid.find? a b)).map ([·])

/-- The rows that Hong Kong fills anew. -/
def isRefilled (a b : Nat) : Bool := (a == 0xC6 && 0xA1 ≤ b) || a == 0xC7 || a == 0xC8

/-- The set of Hong Kong. -/
def hongKong : Pairs where
  single := asciiSingle
  pair a b :=
    (hongKongGrid.findPair? hongKongPairs a b).or
      (if isRefilled a b then none else (traditionalGrid.find? a b).map ([·]))

end OperatorConsole.Charset
