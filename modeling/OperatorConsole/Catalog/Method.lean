import OperatorConsole.Catalog.Operation
import OperatorConsole.Text.Identifier

/-!
Methods as they are declared: their parameters, how these are passed, and when a list of parameters
is well formed. A method also takes the client that it belongs to, as its first parameter.
-/
namespace OperatorConsole

/-! ### Descriptions -/

/-- How a method takes a parameter, in the order in which the kinds may stand in a list. -/
inductive Passing where
  | positional
  /-- All further values. -/
  | furtherValues
  | keywordOnly
  /-- All further values that are passed by name. -/
  | furtherKeywords
  deriving DecidableEq, Repr

/-- The place of a kind in a list of parameters. -/
def Passing.rank : Passing → Nat
  | .positional => 0
  | .furtherValues => 1
  | .keywordOnly => 2
  | .furtherKeywords => 3

/-- The kind in a report. -/
def Passing.title : Passing → String
  | .positional => "positional or keyword"
  | .furtherValues => "variadic positional"
  | .keywordOnly => "keyword-only"
  | .furtherKeywords => "variadic keyword"

/-- The parameter stands for any number of values. -/
def Passing.isVariadic : Passing → Bool
  | .furtherValues | .furtherKeywords => true
  | .positional | .keywordOnly => false

/-- A parameter of a method; without a type it is a text. -/
structure MethodParameter where
  name : String
  type : DeclaredType
  default : Default
  passing : Passing

/-- A method of a client. -/
structure Method where
  name : String
  /-- The method is called and waited for; others are no operations. -/
  isOperation : Bool
  parameters : List MethodParameter
  /-- What is raised when the types of the parameters are looked up, if they do not all exist. -/
  unresolved : Option Raised
  perform : Target → List Value → World → Outcome × World

/-! ### Well-formed lists of parameters -/

/-- Why a list of parameters is none of a method. -/
inductive ParameterFault where
  | defaultOfVariadic (passing : Passing)
  | emptyName
  | badName (name : String)
  | wrongOrder (passing next : Passing)
  | defaultBeforeRequired
  | repeatedName (name : String)
  deriving DecidableEq, Repr

/-- The report on a list of parameters. -/
def ParameterFault.message : ParameterFault → String
  | .defaultOfVariadic passing => s!"{passing.title} parameters cannot have default values"
  | .emptyName => "string index out of range"
  | .badName name => s!"{quoted name} is not a valid parameter name"
  | .wrongOrder passing next =>
    s!"wrong parameter order: {passing.title} parameter before {next.title} parameter"
  | .defaultBeforeRequired => "non-default argument follows default argument"
  | .repeatedName name => s!"duplicate parameter name: {quoted name}"

/-- The words of the language of clients, which name no parameter. -/
def reservedWords : List String := [
  "False", "None", "True", "and", "as", "assert", "async", "await", "break", "class", "continue",
  "def", "del", "elif", "else", "except", "finally", "for", "from", "global", "if", "import", "in",
  "is", "lambda", "nonlocal", "not", "or", "pass", "raise", "return", "try", "while", "with",
  "yield"]

/-- The parameter that takes the client itself. -/
def receiverName : String := "self"

/-- What is wrong with a parameter alone. -/
def MethodParameter.fault? (p : MethodParameter) : Option ParameterFault :=
  if p.passing.isVariadic && p.default.isOptional then some (.defaultOfVariadic p.passing)
  else if p.name == "" then some .emptyName
  else if reservedWords.contains p.name || !Text.isIdentifier p.name.toList then
    some (.badName p.name)
  else none

/-- What is wrong with the order of parameters that follow a kind, a parameter with a default
(`optional`) and the names `seen`. -/
def orderFault? (top : Passing) (optional : Bool) (seen : List String) :
    List MethodParameter → Option ParameterFault
  | [] => none
  | p :: rest =>
    if p.passing.rank < top.rank then some (.wrongOrder top p.passing)
    else if p.passing == .positional && optional && !p.default.isOptional then
      some .defaultBeforeRequired
    else if seen.contains p.name then some (.repeatedName p.name)
    else orderFault? p.passing (optional || p.passing == .positional && p.default.isOptional)
      (p.name :: seen) rest

/-- What is wrong with the parameters of a method: first of each alone, then of their order. -/
def Method.fault? (m : Method) : Option ParameterFault :=
  (m.parameters.findSome? (·.fault?)).or
    (orderFault? .positional false [receiverName] m.parameters)

/-! ### Methods as operations -/

/-- The name is not meant for callers. -/
def isPrivate (name : String) : Bool := name.startsWith "_"

/-- Puts a method under its name: in its place, or at the end. -/
def putMethod (m : Method) : List Method → List Method
  | [] => [m]
  | n :: rest => if n.name == m.name then m :: rest else n :: putMethod m rest

/-- The method is a public operation. -/
def Method.isOffered (m : Method) : Bool := m.isOperation && !isPrivate m.name

/-- The formal parameters of a method; none if it cannot be called without a keyword. -/
def Method.formals? (m : Method) : Option (List Formal) :=
  if m.parameters.any fun p => p.passing == .keywordOnly && !p.default.isOptional then none
  else
    let taken := m.parameters.filter (·.passing == .positional)
    some (taken.map fun p => Formal.ofType p.name p.type p.default)

/-- The operation that a method is. -/
def Method.operation? (m : Method) : Option Operation :=
  m.formals?.map fun formals => ⟨m.name, formals, m.perform⟩

end OperatorConsole
