import OperatorConsole.Json.Token

/-!
Reading a JSON document. The tokens of the text are taken one by one; the state is the containers
that are open and what may come next. The first token that may not stand where it stands decides the
report, and so does the end of the text when something is missing.
-/
namespace OperatorConsole.Json

/-! ### Reports -/

/-- Why a text is no document. -/
inductive ReadDefect where
  | mark
  | value
  | name
  | colon
  | comma
  | extra
  | text (defect : StringDefect)
  | number (digits : Nat)
  | depth (isObject : Bool)
  deriving DecidableEq, Repr

/-- A defect and its place, counted from the end of the text. -/
structure ReadFault where
  defect : ReadDefect
  place : Nat
  deriving DecidableEq, Repr

/-- What a defect is called. -/
def ReadDefect.title : ReadDefect → String
  | .mark => "Unexpected UTF-8 BOM (decode using utf-8-sig)"
  | .value => "Expecting value"
  | .name => "Expecting property name enclosed in double quotes"
  | .colon => "Expecting ':' delimiter"
  | .comma => "Expecting ',' delimiter"
  | .extra => "Extra data"
  | .text .unterminated => "Unterminated string starting at"
  | .text .control => "Invalid control character at"
  | .text .escape => "Invalid \\escape"
  | .text .unicodeEscape => "Invalid \\uXXXX escape"
  | .number digits =>
    s!"Exceeds the limit ({Numeral.digitLimit} digits) for integer string conversion: value has " ++
      s!"{digits} digits; use sys.set_int_max_str_digits() to increase the limit"
  | .depth isObject =>
    let container := if isObject then "object" else "array"
    s!"maximum recursion depth exceeded while decoding a JSON {container} from a unicode string"

/-- The report on a text: most defects are shown with their line, column and index. -/
def ReadFault.message (text : List Char) (fault : ReadFault) : String :=
  let index := text.length - fault.place
  let before := text.take index
  let line := before.count '\n' + 1
  let column := (before.reverse.takeWhile (· != '\n')).length + 1
  match fault.defect with
  | .number _ | .depth _ => fault.defect.title
  | defect => s!"{defect.title}: line {line} column {column} (char {index})"

/-! ### States -/

/-- A container that is open: its parts so far in reverse and, for an object, the name that waits for
its value. -/
inductive Frame where
  | list (items : List Json)
  | object (members : List (CodePoints × Json)) (name : CodePoints)

/-- What may come next. -/
inductive Next where
  | value
  | valueOrClose
  | name
  | nameOrClose
  | colon
  | comma
  | done

/-- The open containers, innermost first, what may come next, and the document once it is read. -/
structure State where
  frames : List Frame
  next : Next
  document : Json

/-- Before the first token. -/
def State.start : State := ⟨[], .value, .null⟩

/-- A value is read: it goes into the innermost container, or it is the document. -/
def State.deliver (s : State) (v : Json) : State :=
  match s.frames with
  | [] => { s with next := .done, document := v }
  | .list items :: rest => { s with frames := .list (v :: items) :: rest, next := .comma }
  | .object members name :: rest =>
    { s with frames := .object ((name, v) :: members) name :: rest, next := .comma }

/-- The innermost container ends: it is delivered to the one around it. -/
def State.close (s : State) : State :=
  match s.frames with
  | [] => s
  | .list items :: rest => { s with frames := rest }.deliver (.list items.reverse)
  | .object members _ :: rest => { s with frames := rest }.deliver (.object members.reverse)

/-- A container begins, unless too many are open. -/
def State.open (limit : Nat) (s : State) (isObject : Bool) (place : Nat) : Except ReadFault State :=
  if limit ≤ s.frames.length then .error ⟨.depth isObject, place⟩
  else if isObject then .ok { s with frames := .object [] [] :: s.frames, next := .nameOrClose }
  else .ok { s with frames := .list [] :: s.frames, next := .valueOrClose }

/-- The mark that ends the innermost container. -/
def State.closingMark (s : State) : Char :=
  match s.frames with
  | .object .. :: _ => '}'
  | _ => ']'

/-- A comma goes on to the next part of the innermost container. -/
def State.afterComma (s : State) : State :=
  match s.frames with
  | .object .. :: _ => { s with next := .name }
  | _ => { s with next := .value }

/-! ### Steps -/

/-- A value or the beginning of one. -/
def takeValue (limit : Nat) (s : State) (t : Token) : Except ReadFault State :=
  match t.lexeme with
  | .scalar v => .ok (s.deliver v)
  | .text points => .ok (s.deliver (.text points))
  | .badText defect place => .error ⟨.text defect, place⟩
  | .badNumber digits => .error ⟨.number digits, t.place⟩
  | .mark '[' => s.open limit false t.place
  | .mark '{' => s.open limit true t.place
  | _ => .error ⟨.value, t.place⟩

/-- The name of a member. -/
def takeName (s : State) (t : Token) : Except ReadFault State :=
  match t.lexeme, s.frames with
  | .text points, .object members _ :: rest =>
    .ok { s with frames := .object members points :: rest, next := .colon }
  | .badText defect place, _ => .error ⟨.text defect, place⟩
  | _, _ => .error ⟨.name, t.place⟩

/-- The token is a mark. -/
def Token.isMark (t : Token) (c : Char) : Bool :=
  match t.lexeme with
  | .mark d => d == c
  | _ => false

/-- Takes one token. -/
def step (limit : Nat) (s : State) (t : Token) : Except ReadFault State :=
  match s.next with
  | .value => takeValue limit s t
  | .valueOrClose => if t.isMark ']' then .ok s.close else takeValue limit s t
  | .name => takeName s t
  | .nameOrClose => if t.isMark '}' then .ok s.close else takeName s t
  | .colon => if t.isMark ':' then .ok { s with next := .value } else .error ⟨.colon, t.place⟩
  | .comma =>
    if t.isMark s.closingMark then .ok s.close
    else if t.isMark ',' then .ok s.afterComma
    else .error ⟨.comma, t.place⟩
  | .done => .error ⟨.extra, t.place⟩

/-- The document at the end of the text. -/
def State.finish (s : State) : Except ReadFault Json :=
  match s.next with
  | .value | .valueOrClose => .error ⟨.value, 0⟩
  | .name | .nameOrClose => .error ⟨.name, 0⟩
  | .colon => .error ⟨.colon, 0⟩
  | .comma => .error ⟨.comma, 0⟩
  | .done => .ok s.document

/-- The document that a text is, with fewer than `limit` containers inside each other. -/
def readWithin (limit : Nat) (cs : List Char) : Except ReadFault Json :=
  if cs.head? = some (Char.ofNat 0xFEFF) then .error ⟨.mark, cs.length⟩
  else do (← (tokens cs).foldlM (step limit) State.start).finish

/-- The most containers that are open at once in a document that parts are selected from. The number is
what one version of the run-time leaves of its depth of calls at that point. -/
def openLimit : Nat := 975

/-- The document that a text is. -/
def read (cs : List Char) : Except ReadFault Json := readWithin openLimit cs

end OperatorConsole.Json
