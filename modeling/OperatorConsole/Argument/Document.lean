import OperatorConsole.Catalog.Declared
import OperatorConsole.Json.Reader

/-!
Arguments given as documents. A document is checked against a declared type and becomes a value of
it. A type that cannot be checked against is found before a document is read; a record of which a
module says nothing else is checked field by field.
-/
namespace OperatorConsole

/-! ### Types -/

mutual

/-- What is raised because documents cannot be checked against a type. -/
def DeclaredType.unsupported? : DeclaredType → Option Raised
  | .foreign _ _ (.error e) => some e
  | .list t | .dict t | .noted t => t.unsupported?
  | .union ts => DeclaredType.unsupportedIn? ts
  | _ => none

/-- What is raised for the first of several types that cannot be checked against. -/
def DeclaredType.unsupportedIn? : List DeclaredType → Option Raised
  | [] => none
  | t :: rest => t.unsupported?.or (DeclaredType.unsupportedIn? rest)

end

mutual

/-- The name of a type in the place of a defect. -/
def DeclaredType.checkLabel : DeclaredType → String
  | .text => "str"
  | .boolean => "bool"
  | .whole | .integer _ => "int"
  | .real | .single | .double => "float"
  | .decimal => "decimal"
  | .bytes => "bytes"
  | .anything => "any"
  | .nothing => "none"
  | .anyList => "list[any]"
  | .anyDict => "dict[any,any]"
  | .content => "FilePayload"
  | .file _ name _ | .foreign _ name _ => name
  | .list t => s!"list[{t.checkLabel}]"
  | .dict t => s!"dict[str,{t.checkLabel}]"
  | .noted t => t.checkLabel
  | .union ts =>
    let names := DeclaredType.checkLabels ts
    let several := match names with
      | [name] => name
      | names => "union[" ++ ",".intercalate names ++ "]"
    if ts.any DeclaredType.isNothing then s!"nullable[{several}]" else several
  | .model _ name _ _ _ => name

/-- The names of several types, without that of nothing. -/
def DeclaredType.checkLabels : List DeclaredType → List String
  | [] => []
  | .nothing :: rest => DeclaredType.checkLabels rest
  | t :: rest => t.checkLabel :: DeclaredType.checkLabels rest

end

/-- A field of a record: given, or left out and built, or missing. -/
def checkField (key : String) (default : Default) (check : Json → Check Value)
    (members : List (CodePoints × Json)) : Check Value :=
  match member? key members with
  | some v => (check v).under (.name key)
  | none =>
    match default.build with
    | some (.ok v) => fits .exact v
    | some (.error e) => .error (.raised e)
    | none => missing key

mutual

/-- Checks a document against a type. -/
def DeclaredType.check : DeclaredType → Json → Check Value
  | .text, v => (checkText v).map (·.map .text)
  | .boolean, v => checkBoolean v
  | .whole, v | .integer _, v => checkWhole v
  | .real, v | .single, v | .double, v => checkReal v
  | .decimal, v => checkDecimal v
  | .bytes, v => (checkBytes v).map (·.map .bytes)
  | .anything, v => fits .strict (plainValue v)
  | .nothing, v => match v with
    | .null => fits .exact .null
    | _ => defect "none_required"
  | .anyList, v => match v with
    | .list items => fits .exact (.list (plainItems items))
    | _ => defect "list_type"
  | .anyDict, v => match v with
    | .object members =>
      fits (if members.isEmpty then .exact else .strict) (.dict (mergeEntries (plainMembers members)))
    | _ => defect "dict_type"
  | .content, v => checkFile "FilePayload" v
  | .file _ name none, v => checkFile name v
  | .file _ _ (some own), v => own.check v
  | .list t, v => match v with
    | .list items =>
      if t.isAnything then fits .exact (.list (plainItems items))
      else (checkItems t.check 0 items).map (·.map .list)
    | _ => defect "list_type"
  | .dict t, v => match v with
    | .object members =>
      (checkEntries t.check members).map (·.map fun entries => .dict (mergeEntries entries))
    | _ => defect "dict_type"
  | .noted t, v => t.check v
  | .union ts, v =>
    match v, ts.any DeclaredType.isNothing with
    | .null, true => fits .exact .null
    | v, _ =>
      let labelled := (ts.filter (!DeclaredType.isNothing ·)).length != 1
      (DeclaredType.tryAll labelled ts v ⟨none, false, [], none⟩).outcome
  | .model _ name _ fields none, v => match v with
    | .object members =>
      asRecord (fields.map (·.key)) members (.record name) (DeclaredType.checkFields fields members)
    | _ => defect "model_type"
  | .model _ _ _ _ (some own), v => own.check v
  | .foreign _ _ (.ok check), v => check v
  | .foreign _ _ (.error e), _ => .error (.raised e)

/-- Checks a document against the members of a union one by one. -/
def DeclaredType.tryAll (labelled : Bool) : List DeclaredType → Json → Trial → Trial
  | [], _, trial => trial
  | .nothing :: rest, v, trial => DeclaredType.tryAll labelled rest v trial
  | t :: rest, v, trial =>
    DeclaredType.tryAll labelled rest v
      (trial.take (if labelled then some t.checkLabel else none) (t.check v))

/-- Checks the members of an object against the fields of a record. -/
def DeclaredType.checkFields : List (FieldOf DeclaredType) → List (CodePoints × Json) →
    Check (List (String × Value))
  | [], _ => fits .exact []
  | ⟨name, otherName, type, default, _⟩ :: rest, members =>
    (checkField (otherName.getD name) default type.check members).both (fun v found => (name, v) :: found)
      (DeclaredType.checkFields rest members)

end

/-! ### Texts of documents -/

/-- Containers that are not empty stand at most so deep inside each other. -/
def depthLimit : Nat := 200

/-- A number of a text is too long: its sign and the digits before its fraction count. -/
def hasLongNumber (cs : List Char) : Bool :=
  (Json.tokens cs).any fun t =>
    let isPart (c : Char) : Bool := c.isDigit || c == '-'
    Numeral.digitLimit < ((cs.drop (cs.length - t.place)).takeWhile isPart).length

/-- The document that the text of an argument is; a half of a surrogate pair may not stand alone. -/
def readDocument (s : String) : Option Json :=
  match Json.readWithin (s.length + 1) s.toList with
  | .error _ => none
  | .ok v =>
    if v.depth ≤ depthLimit && v.allTexts (fun points => !points.any isSurrogate) &&
      !hasLongNumber s.toList then some v else none

/-- The value that the text of a document is for a type, or why it is none. -/
def DeclaredType.read (t : DeclaredType) (s : String) : Except Misfit Value :=
  match t.unsupported?, readDocument s with
  | some e, _ => .error (.raised e)
  | none, none => .error (.defects [⟨[], "json_invalid"⟩])
  | none, some v => (t.check v).map (·.value)

end OperatorConsole
