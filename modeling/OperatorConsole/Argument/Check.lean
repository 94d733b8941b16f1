import OperatorConsole.Json.Basic
import OperatorConsole.Kind
import OperatorConsole.Number.Loose
import OperatorConsole.Raised
import OperatorConsole.Text.Base64
import OperatorConsole.Text.Blank
import OperatorConsole.Text.Lines
import OperatorConsole.Value

/-!
Checks: how a document fits, or why it does not. Close spellings are taken too, such as a number in a
string. All defects of a document are reported, each with its place and its name. Of the members of a
union the closest fit wins, the first of equally close ones.
-/
namespace OperatorConsole

/-! ### Defects and fits -/

/-- One name or index on the way to a part of a document. -/
inductive Place where
  | name (s : String)
  | index (n : Nat)
  deriving DecidableEq, Repr

/-- A defect of a document: where it is and what it is called. -/
structure Defect where
  place : List Place
  name : String
  deriving DecidableEq, Repr

/-- How close a document is to a type. -/
inductive Closeness where
  | lax
  | strict
  | exact
  deriving DecidableEq, Repr

/-- The order of closeness. -/
def Closeness.rank : Closeness → Nat
  | .lax => 0
  | .strict => 1
  | .exact => 2

/-- The less close of two. -/
def Closeness.meet (a b : Closeness) : Closeness := if a.rank ≤ b.rank then a else b

/-- A value that a document fits: how close, and how many fields of records are given in it, if it
has records. A part that settles the matter makes what stands before it in the whole not count. -/
structure Fit (α : Type) where
  value : α
  closeness : Closeness
  given : Option Nat
  settles : Bool

/-- The fields given in two parts together. -/
def addGiven : Option Nat → Option Nat → Option Nat
  | none, b => b
  | a, none => a
  | some a, some b => some (a + b)

/-- A fit of another value. -/
def Fit.map (f : α → β) (fit : Fit α) : Fit β := ⟨f fit.value, fit.closeness, fit.given, fit.settles⟩

/-- A part after another one in a whole. -/
def Fit.andThen (f : α → β → γ) (a : Fit α) (b : Fit β) : Fit γ :=
  if b.settles then b.map (f a.value)
  else ⟨f a.value b.value, a.closeness.meet b.closeness, addGiven a.given b.given, a.settles⟩

/-- A whole that is at most so close, whatever its parts are. -/
def Fit.within (c : Closeness) (parts : Fit α) : Fit α :=
  Fit.andThen (fun _ v => v) ⟨(), c, none, false⟩ parts

/-- So many fields of a record are given, besides those of its parts. -/
def Fit.withGiven (n : Nat) (fit : Fit α) : Fit α := { fit with given := addGiven fit.given (some n) }

/-- Why a document is no value: all its defects, or what the type itself raises. -/
inductive Misfit where
  | defects (ds : List Defect)
  | raised (e : Raised)
  deriving DecidableEq, Repr

/-- The defects of a part, placed in the whole. -/
def Misfit.under (place : Place) : Misfit → Misfit
  | .defects ds => .defects (ds.map fun d => { d with place := place :: d.place })
  | .raised e => .raised e

/-- The result of a check. -/
abbrev Check (α : Type) := Except Misfit (Fit α)

/-- A fit without records. -/
def fits (c : Closeness) (v : α) : Check α := .ok ⟨v, c, none, false⟩

/-- One defect of the whole document. -/
def defect (name : String) : Check α := .error (.defects [⟨[], name⟩])

/-- A part that is not there. -/
def missing (name : String) : Check α := .error (.defects [⟨[.name name], "missing"⟩])

/-- The check of a part, placed in the whole. -/
def Check.under (place : Place) (check : Check α) : Check α := check.mapError (.under place)

/-- Two checks together: both fits, or the defects of both. What is raised ends them. -/
def Check.both (f : α → β → γ) : Check α → Check β → Check γ
  | .ok a, .ok b => .ok (a.andThen f b)
  | .error (.raised e), _ => .error (.raised e)
  | .ok _, .error fault => .error fault
  | .error (.defects ds), .ok _ => .error (.defects ds)
  | .error (.defects ds), .error (.defects es) => .error (.defects (ds ++ es))
  | .error (.defects _), .error (.raised e) => .error (.raised e)

/-! ### Scalars -/

/-- The text of a string of a document; documents that are checked hold no halves of pairs. -/
def stringOf (points : CodePoints) : String := String.ofList (points.map Char.ofNat)

/-- The whole number in a string. -/
def wholeOfString (s : String) : Check Value :=
  match Numeral.readLooseWhole s.toList with
  | .ok n => fits .lax (.int n)
  | .error (.tooLong _) => defect "int_parsing_size"
  | .error .malformed => defect "int_parsing"

/-- The whole numbers of 64 bits. -/
def inLong (n : Int) : Bool := Width.int64.Holds n

/-- The whole numbers that are taken from floating point ones: those of 64 bits but the least. -/
def inLongOfReal (n : Int) : Bool := inLong n && n != Width.int64.low

/-- A whole number. -/
def checkWhole : Json → Check Value
  | .int n => fits .exact (.int n)
  | .bool b => fits .lax (.int (if b then 1 else 0))
  | .float x =>
    if !x.isFinite then defect "finite_number"
    else match x.toInt? with
      | none => defect "int_from_float"
      | some n => if inLongOfReal n then fits .lax (.int n) else defect "int_parsing_size"
  | .text points => wholeOfString (stringOf points)
  | _ => defect "int_type"

/-- The floating point number in a string. -/
def realOfString (s : String) : Check Value :=
  match Numeral.readLooseReal s.toList with
  | some x => fits .lax (.float x)
  | none => defect "float_parsing"

/-- A floating point number. -/
def checkReal : Json → Check Value
  | .float x => fits .exact (.float x)
  | .int n => fits .strict (.float (Binary.ofInt binary64 n))
  | .bool b => fits .lax (.float (Binary.ofInt binary64 (if b then 1 else 0)))
  | .text points => realOfString (stringOf points)
  | _ => defect "float_type"

/-- The words for false. -/
def falseWords : List String := ["0", "off", "f", "false", "n", "no"]

/-- The words for true. -/
def trueWords : List String := ["1", "on", "t", "true", "y", "yes"]

/-- Zero or one as a truth value. -/
def truthOfWhole (n : Int) : Check Value :=
  if n = 0 then fits .lax (.bool false) else if n = 1 then fits .lax (.bool true)
  else defect "bool_parsing"

/-- A truth value. -/
def checkBoolean : Json → Check Value
  | .bool b => fits .exact (.bool b)
  | .text points =>
    let word := String.ofList ((stringOf points).toList.map Text.lowerAscii)
    if falseWords.contains word then fits .lax (.bool false)
    else if trueWords.contains word then fits .lax (.bool true)
    else defect "bool_parsing"
  | .int n => if inLong n then truthOfWhole n else defect "bool_type"
  | .float x =>
    match x.toInt? with
    | some n => if inLongOfReal n then truthOfWhole n else defect "bool_type"
    | none => defect "bool_type"
  | _ => defect "bool_type"

/-- A decimal number that is finite. -/
def finiteDecimal (d : Decimal) : Check Value :=
  if d.isFinite then fits .strict (.decimal d) else defect "finite_number"

/-- A decimal number. -/
def checkDecimal : Json → Check Value
  | .int n => finiteDecimal (.ofInt n)
  | .float x =>
    match Decimal.ofBinary x with
    | some d => finiteDecimal d
    | none => defect "finite_number"
  | .text points =>
    match Decimal.read (stringOf points).toList with
    | .ok d => finiteDecimal d
    | .error _ => defect "decimal_parsing"
  | _ => defect "decimal_type"

/-- A text; since a string of a document may stand for other things too, it is no exact fit. -/
def checkText : Json → Check String
  | .text points => fits .strict (stringOf points)
  | _ => defect "string_type"

/-- The content that a text is in UTF-8. -/
def checkBytes : Json → Check Bytes
  | .text points => fits .strict (Utf8.encode (stringOf points).toList)
  | _ => defect "bytes_type"

/-! ### Anything -/

/-- Puts a value under a key: in the key's place, or at the end. -/
def putEntry (key : String) (v : Value) : List (String × Value) → List (String × Value)
  | [] => [(key, v)]
  | (k, w) :: rest => if k == key then (key, v) :: rest else (k, w) :: putEntry key v rest

/-- Entries with each key once, in its first place and with its last value. -/
def mergeEntries (entries : List (String × Value)) : List (String × Value) :=
  entries.foldl (fun found (key, v) => putEntry key v found) []

mutual

/-- The value that a document is by itself. -/
def plainValue : Json → Value
  | .null => .null
  | .bool b => .bool b
  | .int n => .int n
  | .float x => .float x
  | .text points => .text (stringOf points)
  | .list items => .list (plainItems items)
  | .object members => .dict (mergeEntries (plainMembers members))

/-- The values of the parts of a list. -/
def plainItems : List Json → List Value
  | [] => []
  | v :: rest => plainValue v :: plainItems rest

/-- The values of the members of an object. -/
def plainMembers : List (CodePoints × Json) → List (String × Value)
  | [] => []
  | (key, v) :: rest => (stringOf key, plainValue v) :: plainMembers rest

end

/-! ### Containers -/

/-- The parts of a list, each checked at its index. -/
def checkItems (check : Json → Check Value) (index : Nat) : List Json → Check (List Value)
  | [] => fits .exact []
  | v :: rest =>
    ((check v).under (.index index)).both List.cons (checkItems check (index + 1) rest)

/-- The members of an object, each checked under its key; keys are texts. -/
def checkEntries (check : Json → Check Value) : List (CodePoints × Json) → Check (List (String × Value))
  | [] => fits .exact []
  | (key, v) :: rest =>
    let name := stringOf key
    let entry := (fits .strict name).both Prod.mk ((check v).under (.name name))
    entry.both List.cons (checkEntries check rest)

/-- The last value under a key. -/
def member? (name : String) (members : List (CodePoints × Json)) : Option Json :=
  (members.reverse.find? fun m => m.1 == codePoints name).map (·.2)

/-- The number of names that an object has members for. -/
def countGiven (names : List String) (members : List (CodePoints × Json)) : Nat :=
  (names.filter fun name => (member? name members).isSome).length

/-- A record, made of its fields, of those names. -/
def asRecord (names : List String) (members : List (CodePoints × Json)) (make : α → Value)
    (fields : Check α) : Check Value :=
  fields.map fun fit => ((fit.map make).within .strict).withGiven (countGiven names members)

/-- A file: its content and perhaps its name. -/
def checkFile (typeName : String) : Json → Check Value
  | .object members =>
    let content := match member? "data" members with
      | some v => (checkBytes v).under (.name "data")
      | none => missing "data"
    let name := match member? "file_name" members with
      | none | some .null => fits .exact none
      | some v => ((checkText v).under (.name "file_name")).map (·.map some)
    asRecord ["data", "file_name"] members id (content.both (.file typeName) name)
  | _ => defect "model_type"

/-! ### Unions -/

/-- The members that were tried: the closest fit so far, whether it ends the search, the defects of
those that do not fit, and what one of them raised, which ends the search as well. -/
structure Trial where
  best : Option (Fit Value)
  settled : Bool
  defects : List Defect
  raised : Option Raised

/-- The new fit is closer: more fields are given in it, or else it is of a closer kind. -/
def isCloser (old new : Fit Value) : Bool :=
  match old.given, new.given with
  | some a, some b => if a = b then old.closeness.rank < new.closeness.rank else a < b
  | _, _ => old.closeness.rank < new.closeness.rank

/-- Takes the check of one member, which has a label when there are several. -/
def Trial.take (trial : Trial) (label : Option String) (check : Check Value) : Trial :=
  if trial.settled || trial.raised.isSome then trial
  else match check with
    | .ok fit =>
      if fit.closeness == .exact && fit.given.isNone then { trial with best := some fit, settled := true }
      else match trial.best with
        | none => { trial with best := some fit }
        | some old => if isCloser old fit then { trial with best := some fit } else trial
    | .error fault =>
      match label.elim fault fun label => fault.under (.name label) with
      | .raised e => { trial with raised := some e }
      | .defects ds =>
        if trial.best.isSome then trial else { trial with defects := trial.defects ++ ds }

/-- The outcome of all members; it settles the matter for the whole if it ended the search. -/
def Trial.outcome (trial : Trial) : Check Value :=
  match trial.raised, trial.best with
  | some e, _ => .error (.raised e)
  | none, some fit => .ok { fit with settles := trial.settled }
  | none, none => .error (.defects trial.defects)

end OperatorConsole
