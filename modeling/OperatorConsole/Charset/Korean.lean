import OperatorConsole.Charset.KoreanTable
import OperatorConsole.Charset.Reading

/-!
Korean sets. The common set has rows and columns for the syllables in use; all others are made up of
letters, follow in the order of their code points, or are packed into bytes by their letters.
-/
namespace OperatorConsole.Charset

/-- The syllables of the common set, in order. -/
def commonSyllables : List Nat :=
  (hangulGrid.filter fun (row, _, _) => 0x30 ≤ row && row ≤ 0x48).flatMap fun (_, _, run) =>
    run.toList.map Char.toNat

/-- The first code point of a syllable. -/
def firstHangul : Nat := 0xAC00

/-- The syllable of a first letter, a vowel and a last letter, zero for none. -/
def hangul (lead vowel last : Nat) : Nat := firstHangul + lead * 588 + vowel * 28 + last

/-! ### Syllables made up of letters -/

/-- The letters that begin syllables, by the column from 0xA1 on. -/
def leadColumns : List Nat := [
  0xA1, 0xA2, 0xA4, 0xA7, 0xA8, 0xA9, 0xB1, 0xB2, 0xB3, 0xB5, 0xB6, 0xB7, 0xB8, 0xB9, 0xBA, 0xBB, 0xBC,
  0xBD, 0xBE]

/-- The letters that end syllables, by the column; the first is none. -/
def lastColumns : List Nat := [
  0xD4, 0xA1, 0xA2, 0xA3, 0xA4, 0xA5, 0xA6, 0xA7, 0xA9, 0xAA, 0xAB, 0xAC, 0xAD, 0xAE, 0xAF, 0xB0, 0xB1,
  0xB2, 0xB4, 0xB5, 0xB6, 0xB7, 0xB8, 0xBA, 0xBB, 0xBC, 0xBD, 0xBE]

/-- The syllable of the columns of its three letters. -/
def madeUp? (lead vowel last : Nat) : Option Nat := do
  let lead ← leadColumns.idxOf? lead
  let last ← lastColumns.idxOf? last
  if 0xBF ≤ vowel && vowel ≤ 0xD3 then some (hangul lead (vowel - 0xBF) last) else none

/-- The code point of a pair of bytes of the common set. -/
def commonPair? (a b : Nat) : Option Nat :=
  if a < 0x80 || b < 0x80 then none else hangulGrid.find? (a - 0x80) (b - 0x80)

/-- What stands at the beginning of bytes: ASCII, a pair, or a filler and the letters of a syllable,
each behind the row of letters. -/
def koreanStep : Bytes → Reading
  | [] => .short
  | a :: rest =>
    if a < 0x80 then .points [a.toNat] 1
    else match rest with
      | [] => .short
      | b :: rest =>
        if a == 0xA4 && b == 0xD4 then
          match rest with
          | r :: lead :: s :: vowel :: t :: last :: _ =>
            if r == 0xA4 && s == 0xA4 && t == 0xA4 then
              .ofPoint? (madeUp? lead.toNat vowel.toNat last.toNat) 8
            else .bad 1
          | _ => .short
        else .ofPoint? (commonPair? a.toNat b.toNat) 2

/-! ### Syllables in order -/

/-- The syllables that are not in the common set. -/
def rareSyllables : List Nat := pointsBeyond 11172 firstHangul commonSyllables

/-- The place of a second byte among letters and bytes from 0x81 on. -/
def letterPlace? (b : Nat) : Option Nat :=
  if 0x41 ≤ b && b ≤ 0x5A then some (b - 0x41)
  else if 0x61 ≤ b && b ≤ 0x7A then some (b - 0x61 + 26)
  else if 0x81 ≤ b && b ≤ 0xFE then some (b - 0x81 + 52)
  else none

/-- The rare syllable of a pair of bytes: rows of 178, and of 84 where the common set stands beside. -/
def rarePair? (a b : Nat) : Option Nat := do
  let place ← letterPlace? b
  if 0x81 ≤ a && a ≤ 0xA0 then rareSyllables[178 * (a - 0x81) + place]?
  else if 0xA1 ≤ a && a ≤ 0xC6 && place < 84 then rareSyllables[178 * 32 + 84 * (a - 0xA1) + place]?
  else none

/-- The Korean set of Windows. -/
def windowsKorean : Pairs where
  single := asciiSingle
  pair a b := ((commonPair? a b).or (rarePair? a b)).map ([·])

/-! ### Packed letters -/

/-- The letters that begin syllables, by the number that they are packed as from two on. -/
def packedLeads : List Nat := [
  0x3131, 0x3132, 0x3134, 0x3137, 0x3138, 0x3139, 0x3141, 0x3142, 0x3143, 0x3145, 0x3146, 0x3147,
  0x3148, 0x3149, 0x314A, 0x314B, 0x314C, 0x314D, 0x314E]

/-- The numbers that vowels are packed as. -/
def packedVowels : List Nat :=
  [3, 4, 5, 6, 7, 10, 11, 12, 13, 14, 15, 18, 19, 20, 21, 22, 23, 26, 27, 28, 29]

/-- The letters that end syllables, by the number that they are packed as from two on; the number 18 is
left out. -/
def packedLasts : List Nat := [
  0x3131, 0x3132, 0x3133, 0x3134, 0x3135, 0x3136, 0x3137, 0x3139, 0x313A, 0x313B, 0x313C, 0x313D,
  0x313E, 0x313F, 0x3140, 0x3141, 0x3142, 0x3144, 0x3145, 0x3146, 0x3147, 0x3148, 0x314A, 0x314B,
  0x314C, 0x314D, 0x314E]

/-- The letter at one of the three places of a syllable: none, or a place among its kind. -/
inductive SyllablePart where
  | empty
  | at (place : Nat)

/-- The first letter that a number stands for. -/
def leadOf? (n : Nat) : Option SyllablePart :=
  if n == 1 then some .empty else if 2 ≤ n && n ≤ 20 then some (.at (n - 2)) else none

/-- The vowel that a number stands for. -/
def vowelOf? (n : Nat) : Option SyllablePart :=
  if n == 2 then some .empty else (packedVowels.idxOf? n).map .at

/-- The last letter that a number stands for. -/
def lastOf? (n : Nat) : Option SyllablePart :=
  if n == 1 then some .empty
  else if 2 ≤ n && n ≤ 17 then some (.at (n - 2))
  else if 19 ≤ n && n ≤ 29 then some (.at (n - 3))
  else none

/-- The syllable or the single letter of packed letters. -/
def packedHangul? (a b : Nat) : Option Nat := do
  let lead ← leadOf? (a / 4 % 32)
  let vowel ← vowelOf? (a % 4 * 8 + b / 32)
  let last ← lastOf? (b % 32)
  match lead, vowel, last with
  | .empty, .empty, .empty => some 0x3000
  | .empty, .empty, .at n => packedLasts[n]?
  | .empty, .at n, .empty => some (0x314F + n)
  | .at n, .empty, .empty => packedLeads[n]?
  | .at n, .at m, .empty => some (hangul n m 0)
  | .at n, .at m, .at k => some (hangul n m (k + 1))
  | _, _, _ => none

/-- The code point of a pair of bytes beyond packed letters, from the common set. -/
def foldedPair? (a b : Nat) : Option Nat :=
  if a < 0xD8 || a == 0xDF || 0xF9 < a || b < 0x31 || (0x80 ≤ b && b < 0x91) || b == 0x7F || b == 0xFF ||
      (a == 0xDA && 0xA1 ≤ b && b ≤ 0xD3) then none
  else
    let block := if a < 0xE0 then 2 * (a - 0xD9) else 2 * a - 0x197
    let place := if b < 0x91 then b - 0x31 else b - 0x43
    if a == 0xD8 then none
    else hangulGrid.find? (block + place / 94 + 0x21) (place % 94 + 0x21)

/-- The Korean set of packed letters. -/
def packedKorean : Pairs where
  single := asciiSingle
  pair a b := (if a < 0xD8 then packedHangul? a b else foldedPair? a b).map ([·])

end OperatorConsole.Charset
