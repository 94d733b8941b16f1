import OperatorConsole.Charset.JapaneseTable
import OperatorConsole.Charset.Reading

/-!
Japanese sets. Rows and columns of one or two planes name the characters; a set folds them into bytes,
with half-width letters beside them. Later sets add to the planes, and the first edition of these
lacks some places.
-/
namespace OperatorConsole.Charset

/-- Which planes a set has. -/
inductive Edition where
  /-- The first set, and a supplementary one. -/
  | first
  /-- Both later planes as they were first given. -/
  | early
  /-- Both later planes. -/
  | late
  deriving DecidableEq, Repr

/-- The places of the later first plane that are gaps in the early edition. -/
def lateKanji : List (Nat × Nat) := [
  (0x2E, 0x21), (0x2F, 0x7E), (0x4F, 0x54), (0x4F, 0x7E), (0x74, 0x27), (0x7E, 0x7A), (0x7E, 0x7B),
  (0x7E, 0x7C), (0x7E, 0x7D), (0x7E, 0x7E)]

/-- The code points at a place of the later first plane. -/
def newerKanji? (row column : Nat) : Option (List Nat) :=
  ((kanjiGrid.find? row column).map ([·])).or (newKanjiGrid.findPair? newKanjiPairs row column)

/-- The code points at a place of the first plane. -/
def Edition.first? (e : Edition) (row column : Nat) : Option (List Nat) :=
  match e with
  | .first => (kanjiGrid.find? row column).map ([·])
  | .early => if lateKanji.contains (row, column) then some [gap.toNat] else newerKanji? row column
  | .late => newerKanji? row column

/-- The code point at a place of the second plane. -/
def Edition.second? (e : Edition) (row column : Nat) : Option Nat :=
  match e with
  | .first => extraKanjiGrid.find? row column
  | .early =>
    if (row, column) == (0x7D, 0x3B) then some 0x9B1D else secondKanjiGrid.find? row column
  | .late => secondKanjiGrid.find? row column

/-- The half-width letter of a byte. -/
def halfWidth? (a : Nat) : Option Nat := if 0xA1 ≤ a && a ≤ 0xDF then some (0xFEC0 + a) else none

/-! ### Shifted bytes -/

/-- The row and the column, counted from zero and 0x21, of a pair of bytes whose second one is from
0x40 on. -/
def shiftedPlace? (a b : Nat) : Option (Nat × Nat) :=
  let block := if a < 0xE0 then a - 0x81 else a - 0xC1
  let place := if b < 0x80 then b - 0x40 else b - 0x41
  if a < 0x81 || 0xFC < a || (0x9F < a && a < 0xE0) || b < 0x40 || b == 0x7F || 0xFC < b then none
  else some (2 * block + place / 94, place % 94 + 0x21)

/-- The row of the second plane that a row after the first plane stands for. -/
def secondRow (row : Nat) : Nat :=
  if 0x67 ≤ row then row + 7 else if 0x63 ≤ row || row == 0x5F then row - 0x37 else row - 0x3D

/-- The signs of ASCII that the later sets have in the first plane, by row and column. -/
def movedSigns : List ((Nat × Nat) × Nat) := [((0, 0x40), 0x5C), ((1, 0x32), 0x7E)]

/-- The code points of a pair of bytes. -/
def shiftedPair (e : Edition) (a b : Nat) : Option (List Nat) :=
  (shiftedPlace? a b).bind fun (row, column) =>
    if e != .first && (movedSigns.lookup (row, column)).isSome then
      (movedSigns.lookup (row, column)).map ([·])
    else if row < 94 then e.first? (row + 0x21) column
    else if e == .first then none
    else (e.second? (secondRow row) column).map ([·])

/-- The set of shifted bytes. The later ones have other signs in place of two of ASCII. -/
def shifted (e : Edition) : Pairs where
  single a :=
    if e != .first && a == 0x5C then some 0xA5
    else if e != .first && a == 0x7E then some 0x203E
    else (asciiSingle a).or (halfWidth? a)
  pair := shiftedPair e

/-- The set of shifted bytes of Windows: it has characters of its own, and places for private ones. -/
def windowsShifted : Pairs where
  single a :=
    if a ≤ 0x80 then some a
    else if a == 0xA0 then some 0xF8F0
    else if 0xFD ≤ a then some (0xF8F1 + (a - 0xFD))
    else halfWidth? a
  pair a b :=
    if 0xF0 ≤ a && a ≤ 0xF9 then
      if b < 0x40 || b == 0x7F || 0xFC < b then none
      else some [0xE000 + 188 * (a - 0xF0) + (if b < 0x80 then b - 0x40 else b - 0x41)]
    else ((windowsKanjiGrid.find? a b).map ([·])).or (shiftedPair .first a b)

/-! ### Marked bytes -/

/-- What stands at the beginning of bytes of which those from 0x80 on hold rows and columns: two give
a place of the first plane, two after a mark a half-width letter, and two after another mark a place of
the second plane. -/
def markedStep (e : Edition) : Bytes → Reading
  | [] => .short
  | a :: rest =>
    let a := a.toNat
    if a < 0x80 then .points [a] 1
    else if a == 0x8E then
      match rest with
      | [] => .short
      | b :: _ => .ofPoint? (halfWidth? b.toNat) 2
    else if a == 0x8F then
      match rest with
      | b :: c :: _ =>
        let found := if b.toNat < 0x80 || c.toNat < 0x80 then none
          else
            let (row, column) := (b.toNat - 0x80, c.toNat - 0x80)
            (e.second? row column).or (extraKanjiGrid.find? row column)
        .ofPoint? found 3
      | _ => .short
    else
      match rest with
      | [] => .short
      | b :: _ =>
        .ofPoints? (if b.toNat < 0x80 then none else e.first? (a - 0x80) (b.toNat - 0x80)) 2

end OperatorConsole.Charset
