import OperatorConsole.Kind
import OperatorConsole.Value
import OperatorConsole.Text.Quoted

/-!
Scalar arguments: the text of an argument as a truth value or a number of exactly the kind asked
for. A text that does not denote one is refused with the reason.
-/
namespace OperatorConsole

/-- Why a text is no value of a scalar kind. -/
inductive ScalarFault where
  | notWhole
  | tooManyDigits (count : Nat)
  | outOfRange (n : Int)
  | notReal
  | tooLarge
  | notDecimal
  | decimalRange
  | notBoolean
  | notScalar
  deriving DecidableEq, Repr

/-- The truth value that a text names, in any letter case. -/
def readBoolean (cs : List Char) : Except ScalarFault Bool :=
  let word := String.ofList (Text.lower (Text.strip cs))
  if word == "true" then .ok true else if word == "false" then .ok false else .error .notBoolean

/-- The number of a width that a text denotes. -/
def readInteger (w : Width) (cs : List Char) : Except ScalarFault Int :=
  match Numeral.readWhole cs with
  | .ok n => if w.Holds n then .ok n else .error (.outOfRange n)
  | .error .malformed => .error .notWhole
  | .error (.tooLong count) => .error (.tooManyDigits count)

/-- The double precision number nearest to the number that a text denotes. -/
def readFloat64 (cs : List Char) : Except ScalarFault Binary :=
  match Numeral.readBinary cs with
  | some x => .ok x
  | none => .error .notReal

/-- The single precision number nearest to the double precision number that a text gives; only an
infinity may become one. -/
def readFloat32 (cs : List Char) : Except ScalarFault Binary := do
  let x ← readFloat64 cs
  match x, x.convert binary32 with
  | .finite .., .infinite _ => throw .tooLarge
  | _, y => return y.convert binary64

/-- The decimal number that a text denotes. -/
def readDecimal (cs : List Char) : Except ScalarFault Decimal :=
  match Decimal.read cs with
  | .ok d => .ok d
  | .error .malformed => .error .notDecimal
  | .error .range => .error .decimalRange

/-- The value of a scalar kind that a text denotes. -/
def readScalar (kind : Kind) (s : String) : Except ScalarFault Value :=
  let cs := s.toList
  match kind with
  | .boolean => .bool <$> readBoolean cs
  | .integer w => .int <$> readInteger w cs
  | .float32 => .float <$> readFloat32 cs
  | .float64 => .float <$> readFloat64 cs
  | .decimal => .decimal <$> readDecimal cs
  | .text | .object | .file | .other => .error .notScalar

/-- At most so many characters of a text. -/
def takeText (n : Nat) (s : String) : String := String.ofList (s.toList.take n)

/-- The reason for refusing a text. -/
def ScalarFault.reason (kind : Kind) (s : String) : ScalarFault → String
  | .notWhole => s!"invalid literal for int() with base 10: {takeText 200 (quoted s)}"
  | .tooManyDigits count =>
    s!"Exceeds the limit ({Numeral.digitLimit} digits) for integer string conversion: value has " ++
      s!"{count} digits; use sys.set_int_max_str_digits() to increase the limit"
  | .outOfRange n => s!"{n} is outside the {kind.name} range"
  | .notReal => s!"could not convert string to float: {quoted s}"
  | .tooLarge => "float too large to pack with f format"
  | .notDecimal => "[<class 'decimal.ConversionSyntax'>]"
  | .decimalRange => "[<class 'decimal.InvalidOperation'>]"
  | .notBoolean => s!"'{s}' is not a valid boolean"
  | .notScalar => ""

/-- The report on a text that is refused. -/
def ScalarFault.message (kind : Kind) (s : String) (fault : ScalarFault) : String :=
  match fault with
  | .notScalar => s!"'{kind.name}' is not a scalar type"
  | fault => s!"Cannot convert '{s}' to {kind.name}: {fault.reason kind s}"

end OperatorConsole
