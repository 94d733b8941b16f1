import OperatorConsole.Text.Ranges

/-!
Blank characters: the separators, the line ends and the four information separators that count as
white space. Stripping removes them from both ends of a text.
-/
namespace OperatorConsole.Text

/-- The ranges of white space. -/
def blankRanges : Ranges := [
  (0x9, 0xD), (0x1C, 0x20), (0x85, 0x85), (0xA0, 0xA0), (0x1680, 0x1680), (0x2000, 0x200A),
  (0x2028, 0x2029), (0x202F, 0x202F), (0x205F, 0x205F), (0x3000, 0x3000)]

/-- White space of any kind. -/
def isBlank (c : Char) : Bool := blankRanges.has c

/-- The text without the characters of a class at its start. -/
def stripStart (p : Char → Bool) (cs : List Char) : List Char := cs.dropWhile p

/-- The text without the characters of a class at its end. -/
def stripEnd (p : Char → Bool) (cs : List Char) : List Char := (cs.reverse.dropWhile p).reverse

/-- The text without the characters of a class at either end. -/
def stripBy (p : Char → Bool) (cs : List Char) : List Char := stripEnd p (stripStart p cs)

/-- The text without white space at either end. -/
def strip (cs : List Char) : List Char := stripBy isBlank cs

/-- Takes a character in front of a word that has begun and of the words after it. -/
def wordStep (c : Char) : List Char × List (List Char) → List Char × List (List Char)
  | (word, found) =>
    if isBlank c then ([], if word.isEmpty then found else word :: found) else (c :: word, found)

/-- The runs of characters between white space. -/
def words (cs : List Char) : List (List Char) :=
  let (word, found) := cs.foldr wordStep ([], [])
  if word.isEmpty then found else word :: found

end OperatorConsole.Text
