import OperatorConsole.Number.Binary

/-!
JSON documents. The text of a document may spell half of a surrogate pair by an escape, so strings
are lists of code points and only become text when no such half is among them. An object keeps its
members as they are written; `distinct` gives a repeated key its first place and its last value.
-/
namespace OperatorConsole

/-- The code points of a JSON string, halves of surrogate pairs among them. -/
abbrev CodePoints := List Nat

/-- The code points of a text. -/
def codePoints (s : String) : CodePoints := s.toList.map Char.toNat

/-- Half of a surrogate pair. -/
def isSurrogate (n : Nat) : Bool := 0xD800 ≤ n && n ≤ 0xDFFF

/-- The text of code points, if none is half of a surrogate pair. -/
def textOf? (points : CodePoints) : Option String :=
  if points.any isSurrogate then none else some (String.ofList (points.map Char.ofNat))

/-- A JSON document or a part of one. -/
inductive Json where
  | null
  | bool (b : Bool)
  | int (n : Int)
  | float (x : Binary)
  | text (points : CodePoints)
  | list (items : List Json)
  | object (members : List (CodePoints × Json))
  deriving Inhabited

namespace Json

/-- A JSON string of a text. -/
def ofText (s : String) : Json := .text (codePoints s)

/-- Puts a value under a key: in the key's place, or at the end. -/
def put (key : CodePoints) (value : α) : List (CodePoints × α) → List (CodePoints × α)
  | [] => [(key, value)]
  | (k, v) :: rest => if k = key then (key, value) :: rest else (k, v) :: put key value rest

/-- Members with each key once, in its first place and with its last value. -/
def merge (members : List (CodePoints × α)) : List (CodePoints × α) :=
  members.foldl (fun found (key, value) => put key value found) []

mutual

/-- The document with each key once in every object. -/
def distinct : Json → Json
  | .list items => .list (distinctItems items)
  | .object members => .object (merge (distinctMembers members))
  | v => v

/-- The parts of a list with each key once in every object. -/
def distinctItems : List Json → List Json
  | [] => []
  | v :: rest => distinct v :: distinctItems rest

/-- The members of an object with each key once in every object below. -/
def distinctMembers : List (CodePoints × Json) → List (CodePoints × Json)
  | [] => []
  | (key, v) :: rest => (key, distinct v) :: distinctMembers rest

end

mutual

/-- How deep containers that are not empty stand inside each other. -/
def depth : Json → Nat
  | .list items => depthItems items
  | .object members => depthMembers members
  | _ => 0

/-- The depth of a list of parts; an empty list has none. -/
def depthItems : List Json → Nat
  | [] => 0
  | v :: rest => max (depth v + 1) (depthItems rest)

/-- The depth of the members of an object; an empty object has none. -/
def depthMembers : List (CodePoints × Json) → Nat
  | [] => 0
  | (_, v) :: rest => max (depth v + 1) (depthMembers rest)

end

mutual

/-- Every string of a document, keys included, passes a test. -/
def allTexts (p : CodePoints → Bool) : Json → Bool
  | .text points => p points
  | .list items => allTextsItems p items
  | .object members => allTextsMembers p members
  | _ => true

/-- Every string of a list of parts passes a test. -/
def allTextsItems (p : CodePoints → Bool) : List Json → Bool
  | [] => true
  | v :: rest => allTexts p v && allTextsItems p rest

/-- Every string of the members of an object passes a test. -/
def allTextsMembers (p : CodePoints → Bool) : List (CodePoints × Json) → Bool
  | [] => true
  | (key, v) :: rest => p key && allTexts p v && allTextsMembers p rest

end

end Json

end OperatorConsole
