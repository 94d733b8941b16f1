import OperatorConsole.Json.Basic
import OperatorConsole.Number.Shortest
import OperatorConsole.Text.Utf8

/-!
Printing a JSON document: on one line, or with every part of a container on a line of its own. Empty
containers stay on one line. Characters outside ASCII are escaped or kept.
-/
namespace OperatorConsole.Json

/-- How a document is laid out. -/
structure Layout where
  /-- The number of spaces for each level, if every part has a line of its own. -/
  indent : Option Nat
  /-- What stands between parts. -/
  comma : List Char
  /-- What stands between a name and its value. -/
  colon : List Char
  /-- Characters outside ASCII are escaped. -/
  ascii : Bool

/-- One line with a blank after each comma and colon. -/
def Layout.spaced : Layout := ⟨none, [',', ' '], [':', ' '], true⟩

/-- One line without blanks. -/
def Layout.compact : Layout := ⟨none, [','], [':'], true⟩

/-- A line for each part, two spaces for each level. -/
def Layout.indented : Layout := ⟨some 2, [','], [':', ' '], true⟩

/-- Four hexadecimal digits with a backslash and a letter before them. -/
def unicodeEscape (n : Nat) : List Char :=
  ['\\', 'u', Utf8.hexDigit (n / 0x1000 % 16), Utf8.hexDigit (n / 0x100 % 16),
    Utf8.hexDigit (n / 16 % 16), Utf8.hexDigit (n % 16)]

/-- One code point of a string. -/
def writePoint (ascii : Bool) (n : Nat) : List Char :=
  if n = 0x22 then ['\\', '"']
  else if n = 0x5C then ['\\', '\\']
  else if n = 0x0A then ['\\', 'n']
  else if n = 0x0D then ['\\', 'r']
  else if n = 0x09 then ['\\', 't']
  else if n = 0x0C then ['\\', 'f']
  else if n = 0x08 then ['\\', 'b']
  else if n < 0x20 then unicodeEscape n
  else if n < 0x7F || (!ascii && !isSurrogate n) then [Char.ofNat n]
  else if n < 0x10000 then unicodeEscape n
  else unicodeEscape (0xD800 + (n - 0x10000) / 0x400) ++ unicodeEscape (0xDC00 + (n - 0x10000) % 0x400)

/-- A string between quotes. -/
def writeText (ascii : Bool) (points : CodePoints) : List Char :=
  '"' :: points.flatMap (writePoint ascii) ++ ['"']

/-- A floating point number; the special values are words. -/
def writeFloat : Binary → List Char
  | .nan => "NaN".toList
  | .infinite negative => if negative then "-Infinity".toList else "Infinity".toList
  | x => (Shortest.text x).toList

/-- A line end and the blanks of a level, if parts have lines of their own. -/
def newline (layout : Layout) (level : Nat) : List Char :=
  match layout.indent with
  | some width => '\n' :: List.replicate (width * level) ' '
  | none => []

mutual

/-- A document at a level, in front of the text that follows it. -/
def writeOnto (layout : Layout) (level : Nat) (after : List Char) : Json → List Char
  | .null => "null".toList ++ after
  | .bool b => (if b then "true".toList else "false".toList) ++ after
  | .int n => (toString n).toList ++ after
  | .float x => writeFloat x ++ after
  | .text points => writeText layout.ascii points ++ after
  | .list [] => '[' :: ']' :: after
  | .list (v :: rest) =>
    '[' :: newline layout (level + 1) ++
      writeOnto layout (level + 1)
        (writeItems layout (level + 1) (newline layout level ++ ']' :: after) rest) v
  | .object [] => '{' :: '}' :: after
  | .object ((key, v) :: rest) =>
    '{' :: newline layout (level + 1) ++ writeText layout.ascii key ++ layout.colon ++
      writeOnto layout (level + 1)
        (writeMembers layout (level + 1) (newline layout level ++ '}' :: after) rest) v

/-- The parts of a list after its first one, in front of the text that follows them. -/
def writeItems (layout : Layout) (level : Nat) (after : List Char) : List Json → List Char
  | [] => after
  | v :: rest =>
    layout.comma ++ newline layout level ++
      writeOnto layout level (writeItems layout level after rest) v

/-- The members of an object after its first one, in front of the text that follows them. -/
def writeMembers (layout : Layout) (level : Nat) (after : List Char) :
    List (CodePoints × Json) → List Char
  | [] => after
  | (key, v) :: rest =>
    layout.comma ++ newline layout level ++ writeText layout.ascii key ++ layout.colon ++
      writeOnto layout level (writeMembers layout level after rest) v

end

mutual

/-- What follows a document does not matter to its text. -/
theorem writeOnto_append (layout : Layout) (level : Nat) (v : Json) (a b : List Char) :
    writeOnto layout level (a ++ b) v = writeOnto layout level a v ++ b := by
  match v with
  | .null | .bool _ | .int _ | .float _ | .text _ | .list [] | .object [] => simp [writeOnto]
  | .list (v :: rest) =>
    have h := writeItems_append layout (level + 1) rest (newline layout level ++ ']' :: a) b
    simp only [List.append_assoc, List.cons_append] at h
    simp [writeOnto, h, writeOnto_append layout (level + 1) v]
  | .object ((key, v) :: rest) =>
    have h := writeMembers_append layout (level + 1) rest (newline layout level ++ '}' :: a) b
    simp only [List.append_assoc, List.cons_append] at h
    simp [writeOnto, h, writeOnto_append layout (level + 1) v]

theorem writeItems_append (layout : Layout) (level : Nat) (vs : List Json) (a b : List Char) :
    writeItems layout level (a ++ b) vs = writeItems layout level a vs ++ b := by
  match vs with
  | [] => simp [writeItems]
  | v :: rest =>
    simp [writeItems, writeItems_append layout level rest, writeOnto_append layout level v]

theorem writeMembers_append (layout : Layout) (level : Nat) (ms : List (CodePoints × Json))
    (a b : List Char) :
    writeMembers layout level (a ++ b) ms = writeMembers layout level a ms ++ b := by
  match ms with
  | [] => simp [writeMembers]
  | (key, v) :: rest =>
    simp [writeMembers, writeMembers_append layout level rest, writeOnto_append layout level v]

end

/-- The text of a document. -/
def print (layout : Layout) (v : Json) : String := String.ofList (writeOnto layout 0 [] v)

end OperatorConsole.Json
