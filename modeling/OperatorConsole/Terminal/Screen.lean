import OperatorConsole.Terminal.Markup
import OperatorConsole.Terminal.Wrap

/-!
What is written to a terminal. Lines of a shell are written in full; messages are broken to the width
of the terminal. The banner is a frame around two lines that stand in its middle as one block.
-/
namespace OperatorConsole.Terminal

/-- The cells of a line of the terminal. -/
def screenWidth : Nat := 80

/-- Lines with line ends between them. -/
def joined (lines : List (List Char)) : String := String.ofList (lines.intersperse ['\n']).flatten

/-- The end of a line. -/
def newLine : String := "\n"

/-- A line of a shell, in full. -/
def shellLine (s : String) : String := joined (plainLines (drawPictographs s.toList)) ++ newLine

/-- What a shell shows before it reads a line. -/
def prompt : String := "$ "

/-- A message, broken to the width of the terminal. -/
def message (s : String) : String := joined (wrap screenWidth s.toList) ++ newLine

/-- A marked-up message that the line goes on after. -/
def openMessage (s : String) : Except MarkupFault String :=
  (showMarkup s).map fun shown => joined (wrap screenWidth shown)

/-! ### The banner -/

/-- The cells inside the frame. -/
def frameWidth : Nat := screenWidth - 2

/-- The cells between the frame and its text on either side. -/
def frameGap : Nat := 4

/-- So many of a character. -/
def repeated (n : Nat) (c : Char) : List Char := List.replicate n c

/-- A row of the frame. -/
def row (inside : List Char) : List Char := '│' :: inside ++ ['│']

/-- The lines of a block, all at the same distance from the left, the block in the middle of a
width. -/
def centred (width : Nat) (lines : List (List Char)) : List (List Char) :=
  let size := (lines.map textWidth).foldl max 0
  let left := (width - size) / 2
  lines.map fun line =>
    repeated left ' ' ++ line ++ repeated (width - left - textWidth line) ' '

/-- A frame around a text. -/
def framed (s : String) : String :=
  let inner := frameWidth - 2 * frameGap
  let gap := repeated frameGap ' '
  let longest := ((Text.lines (dropMovements s.toList)).map textWidth).foldl max 0
  let lines := wrap (min inner longest) s.toList
  let rows := (centred inner lines).map fun line => row (gap ++ line ++ gap)
  let blank := row (repeated frameWidth ' ')
  let edge (left right : Char) : List Char := left :: repeated frameWidth '─' ++ [right]
  joined ([edge '╭' '╮', blank] ++ rows ++ [blank, edge '╰' '╯']) ++ newLine

/-- The banner over the number of services and the address that they are asked at. -/
def banner (services : Nat) (target : String) : String :=
  framed s!"apiconsole\n{services} services • {target} • 'help' to list them"

end OperatorConsole.Terminal
