import OperatorConsole.Argument.Check

/-!
Declared types: what an operation says about its parameters and a record about its fields. A note
around a type says nothing about its values; a union lists each of its members once, and a union
with one member besides nothing is that member, or nothing. A note that is a kind changes the kind of
values: of these only the widths of numbers are here. A type that a module declares may do things in
its own way, and then anything can come of it but a change of something else.
-/
namespace OperatorConsole

/-- What a parameter or a field is when it is left out. -/
inductive Default where
  /-- It has no default. -/
  | required
  /-- Always the same value. -/
  | value (v : Value)
  /-- A new value each time, built by the record, if nothing is raised. -/
  | fresh (made : Except Raised Value)

/-- It may be left out. -/
def Default.isOptional : Default → Bool
  | .required => false
  | _ => true

/-- The value of a default that a description shows. -/
def Default.shown : Default → Value
  | .value v => v
  | _ => .null

/-- The value that a field gets in a new record; without a default it gets none. -/
def Default.build : Default → Option (Except Raised Value)
  | .required => none
  | .value v => some (.ok v)
  | .fresh made => some made

/-- A field of a record over its type. -/
structure FieldOf (α : Type) where
  name : String
  /-- Another name that the field is given by. -/
  otherName : Option String
  type : α
  default : Default
  /-- The field cannot be written. -/
  frozen : Bool

/-- The name that a document gives the field by. -/
def FieldOf.key (f : FieldOf α) : String := f.otherName.getD f.name

/-- What a type that a module declares does in its own way. -/
structure Behaviour where
  /-- A new value of the type, made of named values. -/
  make : List (String × Value) → Except Raised Value
  check : Json → Check Value

/-- A declared type. -/
inductive DeclaredType where
  | text
  | boolean
  | whole
  | real
  | decimal
  | bytes
  | anything
  | nothing
  | anyList
  | anyDict
  /-- A whole number of a width. -/
  | integer (width : Width)
  /-- A single precision number. -/
  | single
  /-- A double precision number. -/
  | double
  /-- Content of a file. -/
  | content
  /-- Content of a file, of a type of its own that a module declares. -/
  | file (module name : String) (own : Option Behaviour)
  | list (items : DeclaredType)
  | dict (values : DeclaredType)
  /-- A type with a note. -/
  | noted (type : DeclaredType)
  /-- One of several types. -/
  | union (members : List DeclaredType)
  /-- A record with fields that a module declares; a frozen one cannot be written. -/
  | model (module name : String) (frozen : Bool) (fields : List (FieldOf DeclaredType))
      (own : Option Behaviour)
  /-- Any other type that a module declares: how documents are checked against it, or what is raised
  because they cannot be. -/
  | foreign (module name : String) (check : Except Raised (Json → Check Value))

/-- A field of a record. -/
abbrev FieldDecl := FieldOf DeclaredType

namespace DeclaredType

mutual

/-- The types are the same; types that a module declares are new ones wherever they are described. -/
def same : DeclaredType → DeclaredType → Bool
  | .text, .text | .boolean, .boolean | .whole, .whole | .real, .real | .decimal, .decimal
  | .bytes, .bytes | .anything, .anything | .nothing, .nothing | .anyList, .anyList
  | .anyDict, .anyDict | .single, .single | .double, .double | .content, .content => true
  | .integer v, .integer w => v = w
  | .list a, .list b => same a b
  | .dict a, .dict b => same a b
  | .noted a, .noted b => same a b
  | .union a, .union b => sameAll a b
  | _, _ => false

/-- The types are the same one by one. -/
def sameAll : List DeclaredType → List DeclaredType → Bool
  | [], [] => true
  | a :: as, b :: bs => same a b && sameAll as bs
  | _, _ => false

end

/-- The members that a type adds to a union. -/
def members : DeclaredType → List DeclaredType
  | .union ts => ts
  | t => [t]

/-- The types without later repetitions. -/
def once (types : List DeclaredType) : List DeclaredType :=
  types.foldl (fun found t => if found.any (same t) then found else found ++ [t]) []

/-- One of several types; a union among them adds its members. -/
def unionOf (types : List DeclaredType) : DeclaredType :=
  match once (types.flatMap members) with
  | [t] => t
  | ts => .union ts

/-- The type or nothing. -/
def orNothing (t : DeclaredType) : DeclaredType := unionOf [t, .nothing]

/-- No value at all. -/
def isNothing : DeclaredType → Bool
  | .nothing => true
  | _ => false

/-- A union of one type and nothing is that type, and may be missing. -/
def unwrap : DeclaredType → DeclaredType × Bool
  | .union ts =>
    match ts.filter (!isNothing ·) with
    | [t] => if ts.length = 1 then (.union ts, false) else (t, true)
    | _ => (.union ts, false)
  | t => (t, false)

/-- The type under its notes. -/
def dropNotes : DeclaredType → DeclaredType
  | .noted t => dropNotes t
  | t => t

/-- The kind that values of a type are turned into. -/
def kindOf : DeclaredType → Kind
  | .text => .text
  | .boolean => .boolean
  | .whole => .integer .int64
  | .integer w => .integer w
  | .single => .float32
  | .real | .double => .float64
  | .decimal => .decimal
  | .content | .file .. => .file
  | .model .. => .object
  | .noted t => kindOf t
  | _ => .other

/-- Everything, under whatever notes. -/
def isAnything : DeclaredType → Bool
  | .anything => true
  | .noted t => isAnything t
  | _ => false

/-- The type has a note or a width of its own. -/
def isNoted : DeclaredType → Bool
  | .noted _ | .integer _ | .single | .double => true
  | _ => false

/-- How a note of a kind is shown. -/
def kindNote (kind : Kind) : String :=
  "<TypeKind." ++ kind.name.map Char.toUpper ++ ": '" ++ kind.name ++ "'>"

/-- A label with the notes on it. -/
def withNotes : String × List String → String
  | (label, []) => label
  | (label, notes) => "typing.Annotated[" ++ ", ".intercalate (label :: notes) ++ "]"

/-- The label of nothing, by itself. -/
def nothingLabel : String := "NoneType"

/-- The label of a union over those of its members, some of which may have notes. -/
def unionLabel (members : List (String × List String)) : String :=
  let labels := members.map withNotes
  if members.all (·.2.isEmpty) then
    " | ".intercalate (labels.map fun l => if l == nothingLabel then "None" else l)
  else match labels.filter (· != nothingLabel), labels.length with
    | [label], 2 => s!"typing.Optional[{label}]"
    | _, _ => "typing.Union[" ++ ", ".intercalate labels ++ "]"

mutual

/-- The full label of a type under its notes, and its notes, the innermost one first. -/
def labelAndNotes : DeclaredType → String × List String
  | .text => ("str", [])
  | .boolean => ("bool", [])
  | .whole => ("int", [])
  | .real => ("float", [])
  | .decimal => ("decimal.Decimal", [])
  | .bytes => ("bytes", [])
  | .anything => ("typing.Any", [])
  | .nothing => (nothingLabel, [])
  | .anyList => ("list", [])
  | .anyDict => ("dict", [])
  | .integer w => ("int", [kindNote (.integer w)])
  | .single => ("float", [kindNote .float32])
  | .double => ("float", [kindNote .float64])
  | .content => ("apiconsole.core.domain.models.FilePayload", [])
  | .file module name _ | .model module name _ _ _ | .foreign module name _ =>
    (s!"{module}.{name}", [])
  | .list t => (s!"list[{withNotes (labelAndNotes t)}]", [])
  | .dict t => (s!"dict[str, {withNotes (labelAndNotes t)}]", [])
  | .noted t => ((labelAndNotes t).1, (labelAndNotes t).2 ++ ["'note'"])
  | .union ts => (unionLabel (labelsAndNotes ts), [])

/-- The full labels of types under their notes, and their notes. -/
def labelsAndNotes : List DeclaredType → List (String × List String)
  | [] => []
  | t :: rest => labelAndNotes t :: labelsAndNotes rest

end

/-- The label of a type in help. -/
def label : DeclaredType → String
  | .list _ => "list"
  | .dict _ => "dict"
  | .anything => "Any"
  | .model _ name _ _ _ | .foreign _ name _ => name
  | .union ts =>
    if ts.any isNoted then
      if ts.length = 2 && ts.any isNothing then "Optional" else "Union"
    else (labelAndNotes (.union ts)).1
  | t => (labelAndNotes t).1

end DeclaredType

end OperatorConsole
