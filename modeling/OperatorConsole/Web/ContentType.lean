import OperatorConsole.Charset
import OperatorConsole.Number.Numeral
import OperatorConsole.Text.Blank
import OperatorConsole.Text.Lines
import OperatorConsole.Text.LowerCase
import OperatorConsole.Text.Percent

/-!
Parameters of a content type, and the character set that they name. A parameter is a name and a value,
which may stand in quotes. A long value may be cut into numbered sections, and a section may be spelled
in triples; then the name of a set and of a language stand before it. Without a set that is known, text
is UTF-8.
-/
namespace OperatorConsole.Web.ContentType

/-! ### Parameters -/

/-- A parameter: its name, and its value as it is written. -/
abbrev Parameter := List Char × List Char

/-- The parts of a text between semicolons outside quotes, the first part being `part` in reverse; a
quote after a backslash is none. -/
def splitFrom (inQuotes : Bool) (part : List Char) : List Char → List (List Char)
  | [] => [part.reverse]
  | c :: rest =>
    if c == ';' && !inQuotes then part.reverse :: splitFrom false [] rest
    else splitFrom (if c == '"' && part.head? != some '\\' then !inQuotes else inQuotes) (c :: part) rest

/-- A part as a parameter; a part without an equals sign is a name. -/
def parameterOf (part : List Char) : Parameter :=
  match Text.cut '=' part with
  | (name, some value) => ((Text.strip name).map Text.lowerAscii, Text.strip value)
  | (name, none) => (Text.strip name, [])

/-- The parameters of a content type; the type itself is the first one. -/
def parameters (contentType : List Char) : List Parameter :=
  (splitFrom false [] contentType).map parameterOf

/-- The text without the backslashes in front of a character. -/
def dropBackslashes (before : Char) : List Char → List Char
  | '\\' :: c :: rest =>
    if c == before then c :: dropBackslashes before rest
    else '\\' :: dropBackslashes before (c :: rest)
  | c :: rest => c :: dropBackslashes before rest
  | [] => []

/-- A value without the quotes or angles around it. -/
def unquote (cs : List Char) : List Char :=
  let inner := (cs.drop 1).dropLast
  if cs.length < 2 then cs
  else if cs.head? == some '"' && cs.getLast? == some '"' then
    dropBackslashes '"' (dropBackslashes '\\' inner)
  else if cs.head? == some '<' && cs.getLast? == some '>' then inner
  else cs

/-! ### Sections -/

/-- A section of a value: its number, if it has one, its text, and whether it is spelled in triples. -/
structure Section where
  number : Option Nat
  text : List Char
  spelled : Bool
  deriving DecidableEq, Repr

/-- A character of the name of a parameter in sections. -/
def isNameChar (c : Char) : Bool := c.isAlphanum || c == '_'

/-- The name and the section of a parameter whose name ends with a star, a number, or both. -/
def section? (p : Parameter) : Option (List Char × Section) :=
  let name := p.1.takeWhile isNameChar
  let after := p.1.drop name.length
  let value := unquote p.2
  let digits := (after.drop 1).takeWhile Char.isDigit
  if name.isEmpty || after.head? != some '*' then none
  else if after == ['*'] then some (name, ⟨none, value, true⟩)
  else if digits.isEmpty then none
  else match after.drop (1 + digits.length) with
    | [] => some (name, ⟨some (Numeral.natOf digits), value, false⟩)
    | ['*'] => some (name, ⟨some (Numeral.natOf digits), value, true⟩)
    | _ => none

/-- Sections by the name of their parameter, in the order in which names first stand. -/
def gather (found : List (List Char × Section)) : List (List Char × List Section) :=
  (found.map (·.1)).eraseDups.map fun name => (name, (found.filter (·.1 == name)).map (·.2))

/-- Why the parameters cannot be read: some sections of a value have numbers and others have none. -/
inductive Fault where
  | mixedSections (firstNumbered : Bool)
  deriving DecidableEq, Repr

/-- The report on parameters that cannot be read. -/
def Fault.message : Fault → String
  | .mixedSections firstNumbered =>
    let (other, first) := if firstNumbered then ("NoneType", "int") else ("int", "NoneType")
    s!"'<' not supported between instances of '{other}' and '{first}'"

/-- A section stands before another one, or may stand so. -/
def Section.before (a b : Section) : Bool :=
  if a.number != b.number then a.number.getD 0 ≤ b.number.getD 0
  else if a.text != b.text then String.ofList a.text ≤ String.ofList b.text
  else !a.spelled || b.spelled

/-- A value: plain text, or text after the names of its set and its language. -/
inductive Value where
  | plain (text : List Char)
  | labelled (set text : List Char)
  deriving DecidableEq, Repr

/-- The text that a section stands for; triples are those of bytes up to 0xFF. -/
def Section.plainText (s : Section) : List Char :=
  if s.spelled then (Text.Percent.bytesOf s.text).map fun b => Char.ofNat b.toNat else s.text

/-- The value of sections. -/
def joinSections (sections : List Section) : Except Fault Value :=
  let firstNumbered := (sections.head?.map (·.number.isSome)).getD false
  if sections.any (·.number.isSome != firstNumbered) then .error (.mixedSections firstNumbered)
  else
    let sorted := sections.mergeSort Section.before
    let text := sorted.flatMap Section.plainText
    if !sorted.any (·.spelled) then .ok (.plain text)
    else match Text.cut '\'' text with
      | (set, some rest) =>
        match Text.cut '\'' rest with
        | (_, some value) => .ok (.labelled set value)
        | (_, none) => .ok (.plain text)
      | (_, none) => .ok (.plain text)

/-- The names and values of parameters: those in sections stand at the end. -/
def values (ps : List Parameter) : Except Fault (List (List Char × Value)) := do
  let whole := (ps.take 1).map (fun p => (p.1, Value.plain (unquote p.2))) ++
    ((ps.drop 1).filter fun p => (section? p).isNone).map fun p => (p.1, .plain (unquote p.2))
  let joined ← (gather ((ps.drop 1).filterMap section?)).mapM fun (name, sections) =>
    (joinSections sections).map fun v => (name, v)
  return whole ++ joined

/-! ### Character sets -/

/-- The text of a value; one with a label is read in the set that the label names, if it can be. -/
def Value.text : Value → List Char
  | .plain text => text
  | .labelled set text =>
    let bytes := text.map fun c => UInt8.ofNat c.toNat
    let set := if set.isEmpty then "ascii".toList else set
    match (Charset.ofName? set).bind fun c => (c.read bytes).toOption with
    | some points =>
      if points.all Option.isSome then points.map fun p => Char.ofNat (p.getD 0) else text
    | none => text

/-- The character set that a content type names. -/
def charset (contentType : String) : Except Fault Charset := do
  let named := (← values (parameters contentType.toList)).find? fun (name, _) =>
    name.map Text.lowerAscii == "charset".toList
  return ((named.map (·.2.text)).bind Charset.ofName?).getD .utf8

end OperatorConsole.Web.ContentType

namespace OperatorConsole.Web

/-- Why content has no text. -/
inductive TextFault where
  | type (fault : ContentType.Fault)
  | charset (fault : Charset.Fault)
  deriving DecidableEq, Repr

/-- The report on content without text. -/
def TextFault.message : TextFault → String
  | .type fault => fault.message
  | .charset fault => fault.message

/-- What stands for content that cannot be read. -/
def replacement : Nat := 0xFFFD

/-- The text of content of a type as code points; no content is no text. -/
def readText (contentType : Option String) (content : Bytes) : Except TextFault (List Nat) := do
  if content.isEmpty then return []
  let charset ← match contentType with
    | some type => (ContentType.charset type).mapError .type
    | none => pure .utf8
  let points ← (charset.read content).mapError .charset
  return points.map (·.getD replacement)

end OperatorConsole.Web
