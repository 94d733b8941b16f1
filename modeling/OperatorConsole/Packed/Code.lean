/-!
Codes of bits for symbols. A code is given by the length of the word of every symbol, zero for those
without one: words of one length follow each other in the order of their symbols, and shorter words
come before longer ones.
-/
namespace OperatorConsole.Packed

/-- A code: how many words there are of each length from one bit on, and their symbols in order. -/
structure Code where
  counts : List Nat
  symbols : Array Nat
  deriving Repr

namespace Code

/-- The most bits of a word. -/
def maxLength : Nat := 15

/-- The symbols whose words have a length. -/
def symbolsOf (lengths : List Nat) (length : Nat) : List Nat :=
  (lengths.zipIdx.filter (·.1 == length)).map (·.2)

/-- The lengths of words up to the longest; a code without words waits for one bit. -/
def usedLengths (lengths : List Nat) : List Nat :=
  List.range' 1 (max 1 (lengths.foldl max 0))

/-- The code of the lengths of its words. -/
def ofLengths (lengths : List Nat) : Code :=
  let groups := (usedLengths lengths).map (symbolsOf lengths)
  ⟨groups.map List.length, groups.flatten.toArray⟩

/-- The words of the next length that are free after words of the lengths so far, if there are not
too many of these. -/
def freeAfter? (counts : List Nat) : Option Nat :=
  counts.foldlM (fun free count => if count ≤ 2 * free then some (2 * free - count) else none) 1

/-- The code has no words at all. -/
def isEmpty (c : Code) : Bool := c.symbols.isEmpty

/-- Every text of bits begins with a word. -/
def isComplete (c : Code) : Bool := freeAfter? c.counts == some 0

/-- The code may stand in front of a block: it is complete, or has no words, or, where `single` allows
it, one word of one bit. -/
def isAllowed (single : Bool) (c : Code) : Bool :=
  c.isComplete || c.isEmpty || (single && c.counts == [1])

end Code

end OperatorConsole.Packed
