import OperatorConsole.Catalog.Directory
import OperatorConsole.Command.Reader
import OperatorConsole.Session.Basic

/-!
Execution of a command line: it is read, resolved in the directory, its arguments are bound, a client of
the service is made, the operation is called on it, and what comes of it is made a response. An error that
the interface behind an operation reports is a response too.
-/
namespace OperatorConsole

/-- Why a line gives no response, or a response cannot be saved. -/
inductive Failure where
  | grammar (fault : SyntaxFault)
  | resolution (fault : Directory.Fault)
  | binding (fault : BindingFault)
  /-- No client is made to call the operation on. -/
  | target (e : Raised)
  | operation (fault : OperationFault)
  | noResponse (typeName : String)
  | saving (fault : DiskFault)
  deriving DecidableEq, Repr

/-- What is raised as it is, if the failure is of others. -/
def Failure.raised? : Failure → Option Raised
  | .binding (.raised e) | .target e | .operation (.raised e) => some e
  | _ => none

/-- The report on a failure, as far as its text can be had. -/
def Failure.message : Failure → String
  | .grammar fault => fault.message
  | .resolution fault => fault.message
  | .binding fault => fault.message
  | .target e => e.message
  | .operation fault => fault.message
  | .noResponse typeName => s!"Expecting an operation to return a response but got '{typeName}'"
  | .saving fault => fault.message

/-- The text of a failure, or what is raised in its place. -/
def Failure.text (f : Failure) : Except Told String :=
  match f.raised? with
  | some e => e.text
  | none => .ok f.message

/-- What kind of failure it is. -/
def Failure.nature : Failure → Nature
  | .grammar _ => .grammar
  | .resolution _ => .resolution
  | .binding (.raised e) | .target e => e.nature
  | .binding _ => .binding
  | .operation fault => fault.nature
  | _ => .other

/-- The defect of a status below zero. -/
def negativeStatus : List Defect := [⟨[.name "status_code"], "greater_than_equal"⟩]

/-- The response of a status, headers and content; a status below zero is none. -/
def responseOf (status : Int) (headers : List (String × List String))
    (body : Except OperationFault Bytes) : Except OperationFault Response := do
  match Response.ofInt? status headers (← body) with
  | some r => return r
  | none => throw (.invalid negativeStatus)

/-- An answer of the web as a response: headers grouped by name. -/
def Transport.toResponse (t : Transport) : Except OperationFault Response :=
  responseOf t.status t.headers.grouped t.body

/-- The response that an outcome is. -/
def Outcome.toResponse : Outcome → Except Failure Response
  | .response r => .ok r
  | .answer t | .refused t => t.toResponse.mapError .operation
  | .apiError status headers body => (responseOf status headers body.toBytes).mapError .operation
  | .other typeName => .error (.noResponse typeName)
  | .failure fault => .error (.operation fault)

/-- The service and the operation that a line calls, and its arguments. -/
def Directory.read (d : Directory) (line : String) :
    Except Failure (Service × Operation × List Argument) := do
  let command ← (Command.read line).mapError .grammar
  let (service, operation) ← (d.resolve command.service command.verb).mapError .resolution
  return (service, operation, command.arguments)

/-- Calls an operation of a service with values, on a client that is made for the call. -/
def invoke (s : Service) (o : Operation) (values : List Value) (w : World) :
    Except Failure Response × World :=
  match s.factory w with
  | (.error e, w) => (.error (.target e), w)
  | (.ok target, w) =>
    let (outcome, w) := o.perform target values w
    (outcome.toResponse, w)

/-- Calls an operation of a service with arguments. -/
def call (vars : Variables) (w : World) (s : Service) (o : Operation) (arguments : List Argument) :
    Except Failure Response × World :=
  let scope : Scope := ⟨vars, w⟩
  let w := w.withSent (scope.sentByBind o.formals arguments)
  match scope.bind o.formals arguments with
  | .error fault => (.error (.binding fault), w)
  | .ok values => invoke s o values w

/-- Executes a line. -/
def Directory.execute (d : Directory) (vars : Variables) (w : World) (line : String) :
    Except Failure Response × World :=
  match d.read line with
  | .error failure => (.error failure, w)
  | .ok (service, operation, arguments) => call vars w service operation arguments

end OperatorConsole
