import OperatorConsole.Terminal.Cluster
import OperatorConsole.Text.Blank
import OperatorConsole.Text.Lines

/-!
Breaking text into lines of a width. A line ends before the word that does not fit on it; a word that
fits on no line is cut between clusters. White space stays with the word before it and may not go
beyond the width.
-/
namespace OperatorConsole.Terminal

/-! ### Characters -/

/-- A character that does nothing but move the terminal. -/
def isMovement (c : Char) : Bool :=
  c.toNat == 7 || c.toNat == 8 || (11 ≤ c.toNat && c.toNat ≤ 13)

/-- The text without characters that move the terminal. -/
def dropMovements (cs : List Char) : List Char := cs.filter (!isMovement ·)

/-- The distance between two stops of a tabulator. -/
def tabWidth : Nat := 8

/-- The parts of a line between tabulators, each but the last one with spaces up to the next stop
after it; `place` is the cell in which the line goes on. -/
def padParts (place : Nat) : List (List Char) → List Char
  | [] => []
  | [part] => part
  | part :: rest =>
    let ending := place + textWidth (part ++ [' '])
    let gap := (tabWidth - ending % tabWidth) % tabWidth
    part ++ List.replicate (1 + gap) ' ' ++ padParts (ending + gap) rest

/-- A line with spaces up to the next stop in the place of every tabulator. -/
def expandTabs (line : List Char) : List Char := padParts 0 (Text.splitAt '\t' line)

/-- The lines of a text as a terminal gets them. -/
def plainLines (cs : List Char) : List (List Char) :=
  (Text.splitAt '\n' (dropMovements cs)).map expandTabs

/-! ### Words -/

/-- Words with the white space after them, and with that before the first one; `steps` words at
most. -/
def wordsFrom : Nat → List Char → List (List Char)
  | 0, _ => []
  | steps + 1, cs =>
    let lead := cs.takeWhile Text.isBlank
    let body := cs.dropWhile Text.isBlank
    match body.takeWhile (!Text.isBlank ·) with
    | [] => []
    | word =>
      let after := body.dropWhile (!Text.isBlank ·)
      (lead ++ word ++ after.takeWhile Text.isBlank) :: wordsFrom steps (after.dropWhile Text.isBlank)

/-- The words of a line with the white space around them. -/
def spacedWords (cs : List Char) : List (List Char) := wordsFrom cs.length cs

/-- Clusters in pieces of a width; `piece` is what is read of the next one and `taken` the cells that
it takes. -/
def chopFrom (width : Nat) (piece : List Char) (taken : Nat) : List Cluster → List (List Char)
  | [] => if taken = 0 then [] else [piece]
  | c :: rest =>
    if width < taken + c.width then piece :: chopFrom width c.chars c.width rest
    else chopFrom width (piece ++ c.chars) (taken + c.width) rest

/-- A text in pieces of a width. -/
def chop (width : Nat) (cs : List Char) : List (List Char) := chopFrom width [] 0 (clusters cs)

/-! ### Lines -/

/-- Lines that are full, and the one that words are put on, with the cells that its words take. -/
structure Page where
  full : List (List Char)
  line : List Char
  taken : Nat

/-- A page on which nothing stands. -/
def Page.empty : Page := ⟨[], [], 0⟩

/-- The lines of a page, the one that words are put on among them if it is begun. -/
def Page.begun (page : Page) : List (List Char) :=
  if page.line.isEmpty then page.full else page.full ++ [page.line]

/-- Puts a word on a page. -/
def Page.put (width : Nat) (page : Page) (word : List Char) : Page :=
  let size := textWidth (Text.stripEnd Text.isBlank word)
  if page.taken + size ≤ width then
    { page with line := page.line ++ word, taken := page.taken + textWidth word }
  else if width < size then
    let pieces := chop width word
    let last := pieces.getLast?.getD []
    ⟨page.begun ++ pieces.dropLast, last, textWidth last⟩
  else if page.taken = 0 then { page with line := page.line ++ word }
  else ⟨page.begun, word, textWidth word⟩

/-- The lines that a line is broken into. -/
def breakLine (width : Nat) (cs : List Char) : List (List Char) :=
  match spacedWords cs with
  | [] => [cs]
  | words =>
    let page := words.foldl (Page.put width) .empty
    page.full ++ [page.line]

/-- White space at the end of a line taken away as far as the line is longer than the width. -/
def trimBeyond (width : Nat) (cs : List Char) : List Char :=
  let blanks := (cs.reverse.takeWhile Text.isBlank).length
  cs.take (cs.length - min blanks (cs.length - width))

/-- As many clusters as fit; half of a wide one is a space. -/
def fitClusters : Nat → List Cluster → List Char
  | _, [] => []
  | width, c :: rest =>
    if c.width ≤ width then c.chars ++ fitClusters (width - c.width) rest
    else if width = 0 then [] else [' ']

/-- As much of a line as fits. -/
def fit (width : Nat) (cs : List Char) : List Char :=
  if textWidth cs ≤ width then cs else fitClusters width (clusters cs)

/-- The lines of a text, broken to a width. -/
def wrap (width : Nat) (cs : List Char) : List (List Char) :=
  (plainLines cs).flatMap fun line => (breakLine width line).map fun l => fit width (trimBeyond width l)

end OperatorConsole.Terminal
