import OperatorConsole.Text.Blank
import OperatorConsole.Text.Lines

/-!
Files of assignments. A line gives a name a value: the text up to the end of the line or a comment,
or a text in quotes, which may go over several lines. A line that is no assignment is passed over. A
value may refer to names that were assigned before it and to names of the environment.
-/
namespace OperatorConsole

/-- A name and what it was given, if it was given anything. -/
abbrev Assignment := String × Option String

namespace Assignments

/-! ### Values -/

/-- White space inside a line. -/
def isGap (c : Char) : Bool := Text.isBlank c && c != '\n' && c != '\r'

/-- The text up to the quote that closes it, and what follows. A backslash and the character after
it belong together, so that a quote after a backslash closes nothing. -/
def closeQuote (q : Char) : List Char → Option (List Char × List Char)
  | [] => none
  | '\\' :: c :: rest => (closeQuote q rest).map fun (body, after) => ('\\' :: c :: body, after)
  | c :: rest =>
    if c == q then some ([], rest)
    else (closeQuote q rest).map fun (body, after) => (c :: body, after)

/-- What a character after a backslash stands for. -/
abbrev Escapes := List (Char × Char)

/-- Between single quotes. -/
def singleEscapes : Escapes := [('\\', '\\'), ('\'', '\'')]

/-- Between double quotes. -/
def doubleEscapes : Escapes := [
  ('\\', '\\'), ('\'', '\''), ('"', '"'), ('a', '\x07'), ('b', '\x08'), ('f', '\x0c'), ('n', '\n'),
  ('r', '\r'), ('t', '\t'), ('v', '\x0b')]

/-- Puts for every escape what it stands for. -/
def unescape (escapes : Escapes) : List Char → List Char
  | [] => []
  | '\\' :: c :: rest =>
    match escapes.lookup c with
    | some d => d :: unescape escapes rest
    | none => '\\' :: unescape escapes (c :: rest)
  | c :: rest => c :: unescape escapes rest

/-- The text before a comment: a sharp sign with white space in front of it. -/
def beforeComment : List Char → List Char
  | [] => []
  | c :: rest =>
    if Text.isBlank c && (rest.dropWhile Text.isBlank).head? == some '#' then []
    else c :: beforeComment rest

/-- A value without quotes: its line up to a comment. -/
def bareValue (cs : List Char) : List Char × List Char :=
  (Text.stripEnd Text.isBlank (beforeComment (cs.takeWhile (· != '\n'))), cs.dropWhile (· != '\n'))

/-- A value and what follows it. White space before a sharp sign makes an empty value of it. -/
def readValue (cs : List Char) : Option (List Char × List Char) :=
  match cs.dropWhile isGap with
  | '\'' :: rest => (closeQuote '\'' rest).map fun (body, after) => (unescape singleEscapes body, after)
  | '"' :: rest => (closeQuote '"' rest).map fun (body, after) => (unescape doubleEscapes body, after)
  | start => some (bareValue (if start.head? == some '#' then cs else start))

/-! ### Lines -/

/-- What follows the line. -/
def afterLine (cs : List Char) : List Char := (cs.dropWhile (· != '\n')).drop 1

/-- What follows the line, if nothing but a comment is left of it. -/
def endOfLine (cs : List Char) : Option (List Char) :=
  match cs.dropWhile isGap with
  | [] => some []
  | '\n' :: rest => some rest
  | '#' :: rest => some (afterLine rest)
  | _ => none

/-- The text after the word that marks what is meant for other programs too. -/
def dropExport (cs : List Char) : List Char :=
  let word := "export".toList
  if word.isPrefixOf cs && ((cs.drop word.length).head?.map isGap).getD false then
    (cs.drop word.length).dropWhile isGap
  else cs

/-- A character of a name without quotes. -/
def isNamePart (c : Char) : Bool := c != '=' && c != '#' && !Text.isBlank c

/-- A name and what follows it; a comment is no name but no mistake either. -/
def readName : List Char → Option (Option String × List Char)
  | '#' :: rest => some (none, '#' :: rest)
  | '\'' :: rest =>
    match rest.takeWhile (· != '\''), rest.dropWhile (· != '\'') with
    | c :: name, _ :: after => some (some (String.ofList (c :: name)), after)
    | _, _ => none
  | cs =>
    match cs.takeWhile isNamePart with
    | [] => none
    | name => some (some (String.ofList name), cs.dropWhile isNamePart)

/-- The assignment of a name, if nothing but a comment is left of its line, and what follows. -/
def finish (name : Option String) (value : Option String) (cs : List Char) :
    Option Assignment × List Char :=
  match endOfLine cs with
  | some rest => (name.map fun name => (name, value), rest)
  | none => (none, afterLine cs)

/-- The assignment at the start of a text, if there is one, and what follows. -/
def readOne (cs : List Char) : Option Assignment × List Char :=
  let cs := dropExport (cs.dropWhile Text.isBlank)
  match readName cs with
  | none => (none, afterLine cs)
  | some (name, rest) =>
    match rest.dropWhile isGap with
    | '=' :: rest =>
      match readValue rest with
      | none => (none, afterLine rest)
      | some (value, rest) => finish name (some (String.ofList value)) rest
    | rest => finish name none rest

/-- At most so many assignments of a text. -/
def readSome : Nat → List Char → List Assignment
  | 0, _ => []
  | _, [] => []
  | steps + 1, cs =>
    let (found, rest) := readOne cs
    found.toList ++ readSome steps rest

/-- The assignments of a text in order; a mark of the byte order in front of it is passed over. -/
def read (cs : List Char) : List Assignment :=
  match cs with
  | '\ufeff' :: rest => readSome rest.length rest
  | cs => readSome cs.length cs

/-! ### References -/

/-- A reference after its opening brace: the name, what stands in when the name is unknown, and what
follows. -/
def readReference (cs : List Char) : Option (String × String × List Char) :=
  let isEnd (c : Char) : Bool := c == '\x7d' || c == ':'
  let name := String.ofList (cs.takeWhile (!isEnd ·))
  match cs.dropWhile (!isEnd ·) with
  | ':' :: '-' :: rest =>
    match rest.dropWhile (· != '\x7d') with
    | _ :: after => some (name, String.ofList (rest.takeWhile (· != '\x7d')), after)
    | [] => none
  | '\x7d' :: after => some (name, "", after)
  | _ => none

/-- A text with the value of every reference in its place, `steps` characters of it at most. -/
def expandSome (find : String → Option (Option String)) : Nat → List Char → List Char
  | 0, cs => cs
  | _, [] => []
  | steps + 1, c :: rest =>
    match c, rest with
    | '$', '\x7b' :: inner =>
      match readReference inner with
      | some (name, standIn, after) =>
        ((find name).getD (some standIn)).getD "" |>.toList |> (· ++ expandSome find steps after)
      | none => c :: expandSome find steps rest
    | _, _ => c :: expandSome find steps rest

/-- A text with the value of every reference in its place. -/
def expand (find : String → Option (Option String)) (s : String) : String :=
  String.ofList (expandSome find s.length s.toList)

/-- Gives a name a value: in its place, or as the last one. -/
def put (name : String) (value : Option String) : List Assignment → List Assignment
  | [] => [(name, value)]
  | (n, v) :: rest => if n == name then (name, value) :: rest else (n, v) :: put name value rest

/-- The last value of every name, references replaced. A name of the environment counts where no
assignment came before. -/
def resolve (environment : List (String × String)) (assignments : List Assignment) :
    List Assignment :=
  assignments.foldl
    (fun known (name, value) =>
      let find (n : String) : Option (Option String) :=
        known.lookup n <|> (environment.lookup n).map some
      put name (value.map (expand find)) known) []

end Assignments

end OperatorConsole
