import OperatorConsole.Argument.Binding
import OperatorConsole.Disk.Path
import OperatorConsole.Response

/-!
Sessions: the variables, whether responses are shown in detail, and where content that is no text is
saved. Three variables are reserved for the last response.
-/
namespace OperatorConsole

namespace Variables

/-- Gives a variable a value: in its place, or as the last one. -/
def set (name value : String) : Variables → Variables
  | [] => [(name, value)]
  | (n, v) :: rest => if n == name then (name, value) :: rest else (n, v) :: set name value rest

/-- Undefines a variable. -/
def unset (name : String) (vs : Variables) : Variables := vs.filter (·.1 != name)

/-- The variable is defined. -/
def has (name : String) (vs : Variables) : Bool := vs.any (·.1 == name)

end Variables

/-- The text of the last response. -/
def lastResponse : String := "LastResponse"

/-- The address of the file that the last response was saved in. -/
def lastResponseUri : String := "LastResponseUri"

/-- The status of the last response. -/
def lastResponseStatus : String := "LastResponseStatusCode"

/-- The variables that describe the last response. -/
def reserved : List String := [lastResponse, lastResponseUri, lastResponseStatus]

/-- What lasts from line to line. -/
structure Session where
  vars : Variables
  /-- Responses are shown in detail. -/
  debug : Bool
  downloadDir : DiskPath

namespace Session

/-- A session without variables. -/
def start (downloadDir : DiskPath) : Session := ⟨[], false, downloadDir⟩

/-- Gives a variable a value. -/
def define (s : Session) (name value : String) : Session :=
  { s with vars := s.vars.set name value }

/-- The reserved variables are empty. -/
def clearLast (s : Session) : Session := reserved.foldl (fun s name => s.define name "") s

end Session

end OperatorConsole
