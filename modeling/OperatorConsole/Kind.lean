/-!
Kinds: what the text of an argument is turned into. The scalar kinds take the text itself; an
object, a file or anything else is looked up or decoded.
-/
namespace OperatorConsole

/-- The whole numbers of a fixed width. -/
inductive Width where
  | int8 | int16 | int32 | int64 | uint8 | uint16 | uint32 | uint64
  deriving DecidableEq, Repr

/-- The number of bits. -/
def Width.bits : Width → Nat
  | .int8 | .uint8 => 8
  | .int16 | .uint16 => 16
  | .int32 | .uint32 => 32
  | .int64 | .uint64 => 64

/-- Negative numbers belong to the width. -/
def Width.signed : Width → Bool
  | .int8 | .int16 | .int32 | .int64 => true
  | .uint8 | .uint16 | .uint32 | .uint64 => false

/-- The least number of a width. -/
def Width.low (w : Width) : Int := if w.signed then -(Nat.pow 2 (w.bits - 1) : Int) else 0

/-- The greatest number of a width. -/
def Width.high (w : Width) : Int := Nat.pow 2 (if w.signed then w.bits - 1 else w.bits) - 1

/-- The number belongs to the width. -/
def Width.Holds (w : Width) (n : Int) : Prop := w.low ≤ n ∧ n ≤ w.high

instance (w : Width) (n : Int) : Decidable (w.Holds n) := inferInstanceAs (Decidable (_ ∧ _))

/-- What an argument becomes. -/
inductive Kind where
  | text
  | boolean
  | integer (width : Width)
  | float32
  | float64
  | decimal
  | object
  | file
  | other
  deriving DecidableEq, Repr

/-- The name of a width. -/
def Width.name : Width → String
  | .int8 => "int8"
  | .int16 => "int16"
  | .int32 => "int32"
  | .int64 => "int64"
  | .uint8 => "uint8"
  | .uint16 => "uint16"
  | .uint32 => "uint32"
  | .uint64 => "uint64"

/-- The name of a kind. -/
def Kind.name : Kind → String
  | .text => "str"
  | .boolean => "bool"
  | .integer w => w.name
  | .float32 => "float32"
  | .float64 => "float64"
  | .decimal => "decimal"
  | .object => "object"
  | .file => "file"
  | .other => "other"

/-- Every kind, in the order of its names in help. -/
def Kind.all : List Kind :=
  [.text, .boolean] ++ [.int8, .int16, .int32, .int64, .uint8, .uint16, .uint32, .uint64].map .integer ++
    [.float32, .float64, .decimal, .object, .file, .other]

/-- The kind of a name. -/
def Kind.ofName? (name : String) : Option Kind := Kind.all.find? (·.name == name)

/-- The kind holds numbers. -/
def Kind.isNumeric : Kind → Bool
  | .integer _ | .float32 | .float64 | .decimal => true
  | _ => false

end OperatorConsole
