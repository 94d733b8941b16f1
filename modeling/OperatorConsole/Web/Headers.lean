import OperatorConsole.Text.LowerCase
import OperatorConsole.Text.Quoted

/-!
Header lines. Names are kept in small letters, lines in order; a name may have several lines. Names
and values that are written have to be ASCII.
-/
namespace OperatorConsole

/-- Header lines: names in small letters, and values. -/
abbrev Headers := List (String × String)

/-- The first run of characters of a text that are not ASCII. -/
structure NotAscii where
  run : List Char
  position : Nat
  deriving DecidableEq, Repr

/-- The report on a text that is not ASCII. -/
def NotAscii.message (fault : NotAscii) : String :=
  let place := match fault.run with
    | [c] =>
      s!"character '{String.ofList (Text.Quoted.escapeCode c.toNat)}' in position {fault.position}"
    | run => s!"characters in position {fault.position}-{fault.position + run.length - 1}"
  s!"'ascii' codec can't encode {place}: ordinal not in range(128)"

/-- The character is ASCII. -/
def isAscii (c : Char) : Bool := c.toNat < 0x80

/-- The first run of characters that are not ASCII, if there is one. -/
def notAscii? (s : String) : Option NotAscii :=
  match s.toList.dropWhile isAscii with
  | [] => none
  | rest => some ⟨rest.takeWhile (!isAscii ·), (s.toList.takeWhile isAscii).length⟩

/-- The text with ASCII letters in small. -/
def smallAscii (s : String) : String := String.ofList (s.toList.map Text.lowerAscii)

/-- Header lines as they are sent, if they are ASCII. -/
def asLines (lines : List (String × String)) : Except NotAscii Headers :=
  lines.mapM fun (name, value) =>
    match notAscii? name <|> notAscii? value with
    | some fault => .error fault
    | none => .ok (smallAscii name, value)

namespace Headers

/-- The name of a line is the given one. -/
def isNamed (name : String) (line : String × String) : Bool := line.1 == name

/-- The values of a name, in order. -/
def values (h : Headers) (name : String) : List String := (h.filter (isNamed name)).map (·.2)

/-- The lines without those of a name. -/
def without (h : Headers) (name : String) : Headers := h.filter (!isNamed name ·)

/-- The lines with one line of a name: it stands where the first one stood, or at the end. -/
def withValue (h : Headers) (name value : String) : Headers :=
  h.takeWhile (!isNamed name ·) ++ (name, value) ::
    without ((h.dropWhile (!isNamed name ·)).drop 1) name

/-- Writes a line; the name is looked at before the value. -/
def set (h : Headers) (name value : String) : Except NotAscii Headers :=
  match notAscii? name, notAscii? value with
  | some fault, _ => .error fault
  | none, some fault => .error fault
  | none, none => .ok (h.withValue (smallAscii name) value)

/-- A name as it is looked up: in small letters, which have to be ASCII. -/
def lookupName (name : String) : Except NotAscii String :=
  let small := String.ofList (Text.lower name.toList)
  match notAscii? small with
  | some fault => .error fault
  | none => .ok small

/-- Removes the lines of a name. -/
def remove (h : Headers) (name : String) : Except NotAscii Headers :=
  (lookupName name).map h.without

/-- The values of a name in one text. -/
def get? (h : Headers) (name : String) : Except NotAscii (Option String) :=
  (lookupName name).map fun small => match h.values small with
    | [] => none
    | found => some (", ".intercalate found)

/-- The lines of other headers in place of those of the same names. -/
def update (h new : Headers) : Headers :=
  (h.filter fun line => !new.any (isNamed line.1)) ++ new

/-- Lines grouped by name, names in the order of their first line. -/
def grouped (h : Headers) : List (String × List String) :=
  h.foldl put []
where
  /-- Adds the value of a line to its group. -/
  put : List (String × List String) → String × String → List (String × List String)
    | [], (name, value) => [(name, [value])]
    | (n, vs) :: rest, (name, value) =>
      if n == name then (n, vs ++ [value]) :: rest else (n, vs) :: put rest (name, value)

end Headers

end OperatorConsole
