import OperatorConsole.Number.Decimal
import OperatorConsole.Text.Utf8

/-!
Values: what operations are called with. Maps keep their entries in the order of insertion.
-/
namespace OperatorConsole

/-- A bound argument, a field or an element of one. -/
inductive Value where
  | null
  | bool (b : Bool)
  | text (s : String)
  | int (n : Int)
  | float (x : Binary)
  | decimal (d : Decimal)
  | bytes (content : Bytes)
  | file (typeName : String) (content : Bytes) (fileName : Option String)
  | record (typeName : String) (fields : List (String × Value))
  | list (items : List Value)
  | dict (entries : List (String × Value))
  deriving Inhabited

end OperatorConsole
