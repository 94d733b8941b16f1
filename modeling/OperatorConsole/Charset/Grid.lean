/-!
Grids of characters. A run of characters stands in a row from a column on; a place without a character
is filled with U+FFFD.
-/
namespace OperatorConsole.Charset

/-- Runs of characters: the row, the column of the first one, and the characters. -/
abbrev Grid := List (Nat × Nat × String)

/-- What fills a place without a character. -/
def gap : Char := Char.ofNat 0xFFFD

/-- The code point of the character at a place. -/
def Grid.find? (g : Grid) (row column : Nat) : Option Nat :=
  g.findSome? fun (r, first, run) =>
    if r == row && first ≤ column then
      (run.toList[column - first]?).bind fun c => if c == gap then none else some c.toNat
    else none

/-- The code points of a pair that a list has, or else of the character at a place. -/
def Grid.findPair? (g : Grid) (pairs : List ((Nat × Nat) × List Nat)) (row column : Nat) :
    Option (List Nat) :=
  (pairs.lookup (row, column)).or ((g.find? row column).map ([·]))

/-- The code points from one on that are not in a list in order, so many at most. -/
def pointsBeyond : Nat → Nat → List Nat → List Nat
  | 0, _, _ => []
  | n + 1, point, [] => point :: pointsBeyond n (point + 1) []
  | n + 1, point, c :: cs =>
    if point == c then pointsBeyond n (point + 1) cs
    else point :: pointsBeyond n (point + 1) (c :: cs)

end OperatorConsole.Charset
