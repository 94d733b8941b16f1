import OperatorConsole.Catalog.Declared

/-!
Parameters: what the operator can give. A parameter has the kind its declared type asks for; a
formal parameter of an operation may be a record whose fields can be given one by one in its place.
-/
namespace OperatorConsole

/-- A parameter of an operation, or a field of a record that stands for one. -/
structure Parameter where
  name : String
  kind : Kind
  /-- The declared type under its notes, without the possibility of nothing. -/
  type : DeclaredType
  default : Default
  /-- Nothing may be given. -/
  nullable : Bool

namespace Parameter

/-- The parameter may be left out. -/
def isOptional (p : Parameter) : Bool := p.default.isOptional

/-- The label of the parameter in help. -/
def label (p : Parameter) : String :=
  let name := match p.kind with
    | .object | .other => p.type.label
    | .file => "FilePayload"
    | kind => kind.name
  if p.nullable then s!"{name} | None" else name

/-- The type that a document given for the parameter has to fit. -/
def documentType (p : Parameter) : DeclaredType := if p.nullable then p.type.orNothing else p.type

/-- The parameter of a name, a type and a default. -/
def ofType (name : String) (type : DeclaredType) (default : Default) : Parameter :=
  let (base, nullable) := type.unwrap
  ⟨name, base.kindOf, base.dropNotes, default, nullable⟩

/-- The parameter that a field of a record is; notes around its whole type do not count. -/
def ofField (f : FieldDecl) : Parameter := ofType f.name f.type.dropNotes f.default

end Parameter

/-- The fields of a record that can be given one by one: those of a record of which nothing is
frozen. -/
def DeclaredType.writableFields : DeclaredType → List FieldDecl
  | .model _ _ false fields _ => if fields.any (·.frozen) then [] else fields
  | _ => []

/-- A parameter as an operation declares it, and the fields that may be given in its place. -/
structure Formal extends Parameter where
  fields : List Parameter

/-- The formal parameter of a name, a type and a default. -/
def Formal.ofType (name : String) (type : DeclaredType) (default : Default) : Formal :=
  let p := Parameter.ofType name type default
  ⟨p, p.type.writableFields.map Parameter.ofField⟩

/-- The record of the parameter can be given field by field. -/
def Formal.isFlattenable (f : Formal) : Bool := !f.fields.isEmpty

/-- A list of formal parameters that is one flattenable record. -/
def flattened? : List Formal → Option Formal
  | [f] => if f.isFlattenable then some f else none
  | _ => none

/-- The parameters that the operator sees: the fields of a record that stands alone. -/
def visible (formals : List Formal) : List Parameter :=
  match flattened? formals with
  | some f => f.fields
  | none => formals.map (·.toParameter)

end OperatorConsole
