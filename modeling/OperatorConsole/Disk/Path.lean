import OperatorConsole.Text.Lines

/-!
Paths of files. A path is absolute with one or exactly two slashes in front, or relative; its names
are what stands between slashes, single points left out. Two points stay a name: only a disk knows
where they lead.
-/
namespace OperatorConsole

/-- A path: the number of slashes in front and the names. -/
structure DiskPath where
  slashes : Nat
  names : List String
  deriving DecidableEq, Repr

namespace DiskPath

/-- Slashes at the start of a text: one and two count, more are one. -/
def leadingSlashes (cs : List Char) : Nat :=
  match (cs.takeWhile (· == '/')).length with
  | 0 => 0
  | 2 => 2
  | _ => 1

/-- The path that a text denotes. -/
def parse (cs : List Char) : DiskPath :=
  let names := (Text.splitAt '/' cs).filter fun name => name != [] && name != ['.']
  ⟨leadingSlashes cs, names.map String.ofList⟩

/-- The path that a string denotes. -/
def ofString (s : String) : DiskPath := parse s.toList

/-- The text of a path; the empty one is a point. -/
def text (p : DiskPath) : String :=
  let body := "/".intercalate p.names
  if p.slashes = 0 && p.names.isEmpty then "."
  else String.ofList (List.replicate p.slashes '/') ++ body

/-- The last name of a path, empty when there is none. -/
def name (p : DiskPath) : String := p.names.getLast?.getD ""

/-- The path begins at the root. -/
def isAbsolute (p : DiskPath) : Bool := p.slashes != 0

/-- A path below another; an absolute one stands for itself. -/
def join (p q : DiskPath) : DiskPath :=
  if q.isAbsolute then q else ⟨p.slashes, p.names ++ q.names⟩

/-- The path without its last name. -/
def parent (p : DiskPath) : DiskPath := { p with names := p.names.dropLast }

end DiskPath

end OperatorConsole
