import OperatorConsole.Argument.Scalar
import OperatorConsole.Catalog.Operation
import OperatorConsole.Command.Basic
import OperatorConsole.Content

/-!
Binding: the values that an operation is called with. First every parameter takes at most one
argument of the command, in declared order: the first one of its name, or else the first one that is
left, unless that one has a name. Then the arguments that were taken are turned into values, again in
declared order, and the first one that cannot be turned decides the report.
-/
namespace OperatorConsole

/-- Variables by name, in the order in which they were first defined. -/
abbrev Variables := List (String × String)

/-! ### Assignment -/

/-- The argument that a parameter of a name takes, and those that are left. -/
def takeArgument (name : String) (left : List Argument) : Option Argument × List Argument :=
  match left.find? (·.name == name) with
  | some a => (some a, left.eraseP (·.name == name))
  | none =>
    match left with
    | [] => (none, [])
    | a :: rest => if a.isNamed then (none, a :: rest) else (some a, rest)

/-- A parameter and the argument it takes, if any. -/
abbrev Slot := Parameter × Option Argument

/-- The arguments that parameters take, in order. -/
def assign : List Parameter → List Argument → List Slot
  | [], _ => []
  | p :: rest, left =>
    let (taken, left) := takeArgument p.name left
    (p, taken) :: assign rest left

/-! ### Values of arguments -/

/-- Why an argument has no value. -/
inductive BindingFault where
  | undefined (name : String)
  | documentForFile (parameter : String)
  | scalar (kind : Kind) (text : String) (fault : ScalarFault)
  | unavailable (locator : String) (fault : ContentFault)
  | invalid (parameter : String) (defects : List Defect)
  /-- Content is not there for a reason that is not reported as a fault of the argument. -/
  | content (fault : ContentFault)
  /-- A type that a module declares raises something. -/
  | raised (e : Raised)
  deriving DecidableEq, Repr

/-- The report on an argument without a value. -/
def BindingFault.message : BindingFault → String
  | .undefined name => s!"'${name}' is undefined"
  | .documentForFile parameter => s!"Parameter '{parameter}' does not accept a JSON argument"
  | .scalar kind text fault => fault.message kind text
  | .unavailable locator fault => s!"Unable to load '{locator}': {fault.message}"
  | .invalid parameter _ => s!"Invalid value for parameter '{parameter}': {defectsText}"
  | .content fault => fault.message
  | .raised e => e.message

/-- A document that does not fit, as a fault of the argument that it is. -/
def BindingFault.ofMisfit (parameter : String) : Misfit → BindingFault
  | .defects ds => .invalid parameter ds
  | .raised e => .raised e

/-- A fault of content as a fault of the argument that asks for it. A text that is no web address, and
a name of a character set that cannot be understood, stand for themselves. -/
def BindingFault.ofContent (locator : String) : ContentFault → BindingFault
  | .web (.address fault) => .content (.web (.address fault))
  | .text (.type fault) => .content (.text (.type fault))
  | .text (.charset .bytesOnly) => .content (.text (.charset .bytesOnly))
  | .text (.charset .textOnly) => .content (.text (.charset .textOnly))
  | fault => .unavailable locator fault

/-- What arguments are looked up in. -/
structure Scope where
  vars : Variables
  world : World

/-- The text of an argument: as it is written, or the value of the variable it names. -/
def Scope.textOf (s : Scope) (a : Argument) : Except BindingFault String :=
  match a.form with
  | .plain | .document => .ok a.value
  | .reference =>
    match s.vars.lookup a.value with
    | some text => .ok text
    | none => .error (.undefined a.value)

/-- A new file of a type: content, and the name of the file that it comes from. -/
def DeclaredType.makeFile (t : DeclaredType) (content : Bytes) (name : String) : Except Raised Value :=
  match t with
  | .file _ _ (some own) => own.make [("data", .bytes content), ("file_name", .text name)]
  | .file _ typeName none => .ok (.file typeName content (some name))
  | _ => .ok (.file "FilePayload" content (some name))

/-- The file that a locator names. -/
def Scope.fileOf (s : Scope) (t : DeclaredType) (locator : String) : Except BindingFault Value := do
  let content ← (s.world.contentOf locator).mapError (.ofContent locator)
  let name ← (Locator.fileName locator).mapError (.ofContent locator ∘ .locator)
  (t.makeFile content name).mapError .raised

/-- The defect of a document that holds half of a surrogate pair. -/
def halfPair : List Defect := [⟨[], "string_unicode"⟩]

/-- The document of an argument of a parameter: its text itself, or what its text is a locator of. -/
def Scope.documentOf (s : Scope) (parameter : String) (a : Argument) (text : String) :
    Except BindingFault String :=
  match a.form with
  | .document => .ok text
  | .plain | .reference => do
    match textOf? (← (s.world.textOf text).mapError (.ofContent text)) with
    | some document => return document
    | none => throw (.invalid parameter halfPair)

/-- The value of an argument for a parameter. -/
def Scope.valueOf (s : Scope) (p : Parameter) (a : Argument) : Except BindingFault Value := do
  let text ← s.textOf a
  match p.kind with
  | .file =>
    if a.form == .document then .error (.documentForFile p.name)
    else s.fileOf p.type text
  | .text => return .text text
  | .boolean | .integer _ | .float32 | .float64 | .decimal =>
    (readScalar p.kind text).mapError (.scalar p.kind text)
  | .object | .other =>
    (p.documentType.read (← s.documentOf p.name a text)).mapError (.ofMisfit p.name)

/-- The requests that the value of an argument needs. -/
def Scope.requestsOf (s : Scope) (p : Parameter) (a : Argument) : List Web.Request :=
  match s.textOf a with
  | .error _ => []
  | .ok text =>
    match p.kind with
    | .file | .object | .other => if a.form == .document then [] else s.world.requestsFor text
    | _ => []

/-! ### Binding -/

/-- The values of the arguments that were taken, in order. -/
def Scope.evaluate (s : Scope) (slots : List Slot) : Except BindingFault (List (Parameter × Option Value)) :=
  slots.mapM fun (p, taken) =>
    match taken with
    | none => .ok (p, none)
    | some a => (s.valueOf p a).map fun v => (p, some v)

/-- The requests that the values need, up to the first one that fails. -/
def Scope.sentFor (s : Scope) : List Slot → List Web.Request
  | [] => []
  | (_, none) :: rest => s.sentFor rest
  | (p, some a) :: rest =>
    s.requestsOf p a ++ match s.valueOf p a with
      | .ok _ => s.sentFor rest
      | .error _ => []

/-- The value of a parameter: the one given, or its default, or nothing. -/
def callValue : Parameter × Option Value → Value
  | (_, some v) => v
  | (p, none) => p.default.shown

/-! ### Records -/

/-- The named values that a record is made of: those that are given, and nothing for every field that is
left out and has no default. -/
def namedValues (values : List (Parameter × Option Value)) : List (String × Value) :=
  values.filterMap fun
    | (p, some v) => some (p.name, v)
    | (p, none) => if p.isOptional then none else some (p.name, .null)

/-- The values of the fields of a new record. A field takes the value under its other name, or else under
its own, and no other field can have it; without one it has its default. -/
def fieldValues : List FieldDecl → List (String × Value) → Except Raised (List (String × Value))
  | [], _ => .ok []
  | f :: rest, values =>
    match (f.otherName.toList ++ [f.name]).findSome? fun key => (values.lookup key).map (key, ·) with
    | some (key, v) => (fieldValues rest (values.filter (·.1 != key))).map ((f.name, v) :: ·)
    | none =>
      match f.default.build with
      | some made => do return (f.name, ← made) :: (← fieldValues rest values)
      | none => fieldValues rest values

/-- The name of what makes a record; no value can be handed over under it. -/
def receiverOfRecord : String := "cls"

/-- What is raised when a value is handed over under that name. -/
def receiverTwice : Raised := .told
  ⟨.other, "TypeError",
    s!"BaseModel.model_construct() got multiple values for argument '{receiverOfRecord}'"⟩

/-- A new record of a type, made of named values that are not checked. -/
def DeclaredType.makeRecord (t : DeclaredType) (values : List (String × Value)) :
    Except Raised Value :=
  match t with
  | .model _ _ _ _ (some own) => own.make values
  | .model _ name _ fields none =>
    if values.any (·.1 == receiverOfRecord) then .error receiverTwice
    else (fieldValues fields values).map (.record name)
  | _ => .ok .null

/-! ### Calls -/

/-- The values that formal parameters get: one each, or one record in place of all. -/
def callValues (formals : List Formal) (values : List (Parameter × Option Value)) :
    Except BindingFault (List Value) :=
  match flattened? formals with
  | some f => ((f.type.makeRecord (namedValues values)).map ([·])).mapError .raised
  | none => .ok (values.map callValue)

/-- The values that formal parameters get from the arguments of a command. -/
def Scope.bind (s : Scope) (formals : List Formal) (arguments : List Argument) :
    Except BindingFault (List Value) := do
  callValues formals (← s.evaluate (assign (visible formals) arguments))

/-- The requests that binding sends. -/
def Scope.sentByBind (s : Scope) (formals : List Formal) (arguments : List Argument) : List Web.Request :=
  s.sentFor (assign (visible formals) arguments)

end OperatorConsole
