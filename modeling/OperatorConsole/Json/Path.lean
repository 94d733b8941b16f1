import OperatorConsole.Json.Reader
import OperatorConsole.Text.Quoted

/-!
Paths into a JSON document, such as `data.items[0]['id']`. A step is an index in brackets, a key
between quotes in brackets, or a key after an optional point; a dollar sign may stand in front. The
steps are read and walked one after the other, so a step that cannot be taken is reported before a
later one that cannot be read.
-/
namespace OperatorConsole.Json

/-- One step of a path; an index keeps the text it is written with. -/
inductive Step where
  | index (written : List Char)
  | key (name : List Char)
  deriving DecidableEq, Repr

/-- Why a path selects nothing. -/
inductive PathFault where
  | malformed (rest : List Char)
  | notList (written : List Char)
  | outOfRange (written : List Char)
  | tooLong (digits : Nat)
  | noProperty (name : List Char)
  deriving DecidableEq, Repr

/-- The report on a path. -/
def PathFault.message : PathFault → String
  | .malformed rest => s!"Invalid path near '{String.ofList rest}'"
  | .notList written => s!"'[{String.ofList written}]' applied to a non-array value"
  | .outOfRange written => s!"Index {String.ofList written} is out of range"
  | .tooLong digits => (ReadDefect.number digits).title
  | .noProperty name => s!"Property '{String.ofList name}' not found"

/-- An index in brackets. -/
def takeIndex : List Char → Option (Step × List Char)
  | '[' :: rest =>
    let sign := if rest.head? = some '-' then ['-'] else []
    let digits := (rest.drop sign.length).takeWhile Text.isDigit
    match digits, (rest.drop sign.length).dropWhile Text.isDigit with
    | _ :: _, ']' :: after => some (.index (sign ++ digits), after)
    | _, _ => none
  | _ => none

/-- A key between quotes in brackets. -/
def takeQuoted : List Char → Option (Step × List Char)
  | '[' :: '\'' :: rest =>
    match rest.dropWhile (· != '\'') with
    | '\'' :: ']' :: after => some (.key (rest.takeWhile (· != '\'')), after)
    | _ => none
  | _ => none

/-- A character of a key that is not between quotes. -/
def isKeyChar (c : Char) : Bool := c != '.' && c != '[' && c != ']'

/-- The text without a point at its start. -/
def dropPoint : List Char → List Char
  | '.' :: rest => rest
  | cs => cs

/-- A key after an optional point. -/
def takeKey (cs : List Char) : Option (Step × List Char) :=
  match (dropPoint cs).takeWhile isKeyChar with
  | [] => none
  | name => some (.key name, (dropPoint cs).drop name.length)

/-- The step at the start of a path. -/
def takeStep (cs : List Char) : Option (Step × List Char) :=
  takeIndex cs <|> takeQuoted cs <|> takeKey cs

/-- The part of a document that a step leads to. An index below zero counts from the end. -/
def Step.apply : Step → Json → Except PathFault Json
  | .index written, .list items =>
    match Numeral.readWhole written with
    | .error (.tooLong digits) => .error (.tooLong digits)
    | .error .malformed => .error (.outOfRange written)
    | .ok n =>
      let place := if n < 0 then n + items.length else n
      if 0 ≤ place then
        match items[place.toNat]? with
        | some v => .ok v
        | none => .error (.outOfRange written)
      else .error (.outOfRange written)
  | .index written, _ => .error (.notList written)
  | .key name, .object members =>
    match members.find? fun member => member.1 == name.map Char.toNat with
    | some (_, v) => .ok v
    | none => .error (.noProperty name)
  | .key name, _ => .error (.noProperty name)

theorem takeIndex_length {cs rest : List Char} {s : Step} (h : takeIndex cs = some (s, rest)) :
    rest.length < cs.length := by
  unfold takeIndex at h
  split at h
  · next tail =>
    dsimp only at h
    split at h
    · next after _ hd =>
      obtain ⟨-, rfl⟩ := by simpa using h
      have h1 := (List.dropWhile_suffix (l := tail.drop (if tail.head? = some '-' then ['-'] else []).length) Text.isDigit).length_le
      rw [hd] at h1
      simp only [List.length_cons, List.length_drop] at h1 ⊢
      omega
    · simp at h
  · simp at h

theorem takeQuoted_length {cs rest : List Char} {s : Step} (h : takeQuoted cs = some (s, rest)) :
    rest.length < cs.length := by
  unfold takeQuoted at h
  split at h
  · next tail =>
    split at h
    · next after hd =>
      obtain ⟨-, rfl⟩ := by simpa using h
      have h1 := (List.dropWhile_suffix (l := tail) (· != '\'')).length_le
      rw [hd] at h1
      simp only [List.length_cons] at h1 ⊢
      omega
    · simp at h
  · simp at h

theorem length_dropPoint_le (cs : List Char) : (dropPoint cs).length ≤ cs.length := by
  unfold dropPoint
  split <;> simp

theorem takeKey_length {cs rest : List Char} {s : Step} (h : takeKey cs = some (s, rest)) :
    rest.length < cs.length := by
  unfold takeKey at h
  split at h
  · simp at h
  · next hn =>
    obtain ⟨-, rfl⟩ := by simpa using h
    have h1 := List.length_pos_iff.2 hn
    have h2 := (List.takeWhile_prefix (l := dropPoint cs) isKeyChar).length_le
    have h3 := length_dropPoint_le cs
    simp only [List.length_drop]
    omega

theorem takeStep_length {cs rest : List Char} {s : Step} (h : takeStep cs = some (s, rest)) :
    rest.length < cs.length := by
  unfold takeStep at h
  cases hi : takeIndex cs with
  | some found => exact takeIndex_length (by simpa [hi] using h)
  | none =>
    cases hq : takeQuoted cs with
    | some found => exact takeQuoted_length (by simpa [hi, hq] using h)
    | none => exact takeKey_length (by simpa [hi, hq] using h)

/-- Walks the rest of a path from a part of a document. -/
def walk (v : Json) (cs : List Char) : Except PathFault Json :=
  if cs.isEmpty then .ok v
  else match _ : takeStep cs with
    | none => .error (.malformed cs)
    | some (s, rest) => do walk (← s.apply v) rest
termination_by cs.length
decreasing_by exact takeStep_length ‹_›

/-- The part of a document that a path leads to. -/
def select (v : Json) (path : List Char) : Except PathFault Json :=
  match Text.strip path with
  | '$' :: rest => walk v rest
  | cs => walk v cs

end OperatorConsole.Json
