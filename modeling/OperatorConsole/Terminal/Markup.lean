import OperatorConsole.Terminal.Literal
import OperatorConsole.Terminal.Pictograph
import OperatorConsole.Terminal.Style
import OperatorConsole.Text.Quoted
import OperatorConsole.Text.Word

/-!
Marked-up text. A tag in square brackets opens a style or closes one; a backslash in front of it
makes it plain. Without styles only the text remains; a tag that closes what is not open is an
error, and so is an action whose arguments cannot be read when it closes.
-/
namespace OperatorConsole.Terminal

/-! ### Parts -/

/-- One part of a marked-up text. -/
inductive Mark where
  /-- Plain text. -/
  | text (cs : List Char)
  /-- The inside of a tag, with the place of the tag. -/
  | tag (place : Nat) (inside : List Char)
  deriving DecidableEq, Repr

/-- A character that can begin the inside of a tag. -/
def beginsTag (c : Char) : Bool := ('a' ≤ c && c ≤ 'z') || c == '#' || c == '/' || c == '@'

/-- The inside of the tag whose bracket was just read, and what follows it. -/
def tagAfter : List Char → Option (List Char × List Char)
  | [] => none
  | c :: rest =>
    let isEnd (d : Char) : Bool := d == '[' || d == ']'
    match rest.dropWhile (!isEnd ·) with
    | ']' :: after => if beginsTag c then some (c :: rest.takeWhile (!isEnd ·), after) else none
    | _ => none

/-- A tag after backslashes that begin at a place: each two stand for one, and one that is left makes
the tag plain. -/
def escapedTag (place backslashes : Nat) (inside : List Char) : List Mark :=
  .text (List.replicate (backslashes / 2) '\\') ::
    if backslashes % 2 = 1 then [.text ('[' :: inside ++ [']'])]
    else [.tag (place + backslashes) inside]

/-- The parts of a text from a place on, in `steps` parts at most; `plain` is the plain text read
last, reversed. -/
def marksFrom (place : Nat) (plain : List Char) : Nat → List Char → List Mark
  | 0, cs => [.text (plain.reverse ++ cs)]
  | _, [] => [.text plain.reverse]
  | steps + 1, c :: rest =>
    let run := (c :: rest).takeWhile (· == '\\')
    match (c :: rest).drop run.length with
    | '[' :: after =>
      match tagAfter after with
      | some (inside, after) =>
        .text plain.reverse :: escapedTag place run.length inside ++
          marksFrom (place + run.length + inside.length + 2) [] steps after
      | none => marksFrom (place + 1) (c :: plain) steps rest
    | _ => marksFrom (place + 1) (c :: plain) steps rest

/-- The parts of a text. -/
def marks (cs : List Char) : List Mark := marksFrom 0 [] cs.length cs

/-- Plain text as it is shown. -/
def shownText : List Char → List Char
  | [] => []
  | '\\' :: '[' :: rest => '[' :: shownText rest
  | c :: rest => c :: shownText rest

/-! ### Faults -/

/-- Why a text cannot be shown. -/
inductive MarkupFault where
  /-- A tag closes what is not open. -/
  | notOpen (inside : List Char) (place : Nat)
  /-- A tag closes the last style, but none is open. -/
  | nothingOpen (place : Nat)
  /-- The arguments of an action are no value. -/
  | arguments (value given : List Char) (fault : Literal.Fault)
  | colour (fault : ColourFault)
  deriving DecidableEq, Repr

/-- The report on a text that cannot be shown. -/
def MarkupFault.message : MarkupFault → String
  | .notOpen inside place =>
    s!"closing tag '[{String.ofList inside}]' at position {place} doesn't match any open tag"
  | .nothingOpen place => s!"closing tag '[/]' at position {place} has nothing to close"
  | .arguments value given fault =>
    s!"error parsing {quoted (String.ofList value)} in {quoted (String.ofList given)}; {fault.message}"
  | .colour fault =>
    s!"invalid literal for int() with base 10: {quoted (String.ofList fault.part)}"

/-! ### Styles that are open -/

/-- A tag that is open: its normal name, and what stands after the equals sign. -/
structure OpenTag where
  name : List Char
  value : Option (List Char)
  deriving DecidableEq, Repr

/-- The arguments of an action, if it is written as a call of a name. -/
def callArguments? (action : List Char) : Option (List Char) :=
  let rest := action.dropWhile fun c => Text.isWord c || c == '.'
  if rest == [] then some "()".toList
  else if rest.head? == some '(' && rest.getLast? == some ')' && !rest.contains '\n' then some rest
  else none

/-- Closes a tag that was open. The arguments of an action are read when it closes. -/
def OpenTag.close (tag : OpenTag) : Except MarkupFault Unit :=
  match tag.name, tag.value with
  | '@' :: _, some (c :: given) =>
    let action := Text.strip (c :: given)
    let value := (callArguments? action).getD action
    match Literal.fault? value with
    | some fault => .error (.arguments value (c :: given) fault)
    | none => .ok ()
  | _, _ => .ok ()

/-- The tags without the first one of a name. -/
def withoutTag (name : List Char) (tags : List OpenTag) : List OpenTag :=
  tags.takeWhile (·.name != name) ++ (tags.dropWhile (·.name != name)).drop 1

/-- The tags that are open after another one, the last one first. -/
def stepTag (tags : List OpenTag) (place : Nat) (inside : List Char) :
    Except MarkupFault (List OpenTag) := do
  let (name, value) := Text.cut '=' inside
  match name with
  | '/' :: name =>
    let name := Text.strip name
    if name.isEmpty then
      match tags with
      | [] => throw (.nothingOpen place)
      | tag :: others =>
        tag.close
        return others
    else
      let name ← (Style.normalName name).mapError .colour
      match tags.find? (·.name == name) with
      | none => throw (.notOpen inside place)
      | some tag =>
        tag.close
        return withoutTag name tags
  | name => return ⟨← (Style.normalName name).mapError .colour, value⟩ :: tags

/-- What is shown of the parts of a text while tags are open. -/
def showMarks (tags : List OpenTag) : List Mark → Except MarkupFault (List Char)
  | [] => .ok []
  | .text cs :: rest => (showMarks tags rest).map fun shown => drawPictographs (shownText cs) ++ shown
  | .tag place inside :: rest => do
    let tags ← stepTag tags place inside
    showMarks tags rest

/-- What is shown of a marked-up text. -/
def showMarkup (s : String) : Except MarkupFault (List Char) := showMarks [] (marks s.toList)

end OperatorConsole.Terminal
