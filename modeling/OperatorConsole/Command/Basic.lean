import OperatorConsole.Text.Blank

/-!
Commands: what one line asks for. A command names a service and a verb and has arguments in written
order, each given by name or by position.
-/
namespace OperatorConsole

/-- How an argument is written. -/
inductive Form where
  /-- Bare, or between double quotes. -/
  | plain
  /-- Between single quotes: a JSON document. -/
  | document
  /-- A dollar sign and the name of a variable. -/
  | reference
  deriving DecidableEq, Repr

/-- One argument of a command; the name is empty when the argument is positional, the value is
without its quotes or its dollar sign. -/
structure Argument where
  form : Form
  name : String
  value : String
  deriving DecidableEq, Repr

/-- The argument is given by a name that is not blank. -/
def Argument.isNamed (a : Argument) : Bool := !(Text.strip a.name.toList).isEmpty

/-- What one line asks for. -/
structure Command where
  service : String
  verb : String
  arguments : List Argument
  deriving DecidableEq, Repr

/-- Why a line is no command. -/
inductive SyntaxFault where
  | noService
  | noVerb (service : String)
  deriving DecidableEq, Repr

/-- The report on a line that is no command. -/
def SyntaxFault.message : SyntaxFault → String
  | .noService => "Unknown service"
  | .noVerb service => s!"Unable to parse verb for '{service}'"

end OperatorConsole
