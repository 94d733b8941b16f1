import OperatorConsole.Argument.Document
import OperatorConsole.Catalog.Parameter
import OperatorConsole.World

/-!
Operations: what can be called. An operation has a name, formal parameters, and what it does to the
world when it is called with values on a client of its service, which is made for the call; its outcome
is a response, something that stands for one, or a failure of its own. A client is called by its name
without the ending `Client`, an operation by its name without the ending `_async`; a name that is nothing
but its ending is kept.
-/
namespace OperatorConsole

/-! ### Names on the command line -/

/-- The name without an ending, unless nothing is left of it. -/
def dropEnding (ending name : String) : String :=
  if ending.toList.isSuffixOf name.toList && name != ending then
    String.ofList (name.toList.take (name.length - ending.length))
  else name

/-- The service that a client is called by. -/
def serviceName (client : String) : String := dropEnding "Client" client

/-- The verb that an operation is called by. -/
def verbName (operation : String) : String := dropEnding "_async" operation

/-- The words that end a session. -/
def exitWords : List String := ["exit", "quit", "bye", "q"]

/-! ### Outcomes -/

/-- A failure that an operation raises. -/
inductive OperationFault where
  /-- A header name or value is not ASCII. -/
  | notAscii (fault : NotAscii)
  /-- A text holds halves of surrogate pairs. -/
  | surrogates (run : CodePoints) (position : Nat)
  /-- An argument that was not given is used as if it had a feature. -/
  | noFeature (feature : String)
  /-- An argument that was not given is used as the text of a document. -/
  | noDocument
  /-- An argument that was not given is used as an encoded text. -/
  | noEncodedText
  /-- An encoded text is not ASCII. -/
  | encodedNotAscii
  /-- A document is nested too deep. -/
  | tooDeep (isObject : Bool)
  /-- The web does not answer. -/
  | web (fault : Web.Fault)
  /-- A response does not fit its type. -/
  | invalid (defects : List Defect)
  /-- Any other failure, its text perhaps not to be had. What is no ordinary failure, such as an interrupt,
  is left out. -/
  | raised (e : Raised)
  deriving DecidableEq, Repr

/-- What stands in a report for the list of all defects. -/
def defectsText : String := "<validation>"

/-- The report on a failure, as far as its text can be had. -/
def OperationFault.message : OperationFault → String
  | .notAscii fault => fault.message
  | .surrogates run position =>
    let place := match run with
      | [point] => s!"character '{String.ofList (Text.Quoted.escapeCode point)}' in position {position}"
      | run => s!"characters in position {position}-{position + run.length - 1}"
    s!"'utf-8' codec can't encode {place}: surrogates not allowed"
  | .noFeature feature => s!"'NoneType' object has no attribute '{feature}'"
  | .noDocument => "the JSON object must be str, bytes or bytearray, not NoneType"
  | .noEncodedText => "argument should be a bytes-like object or ASCII string, not 'NoneType'"
  | .encodedNotAscii => "string argument should contain only ASCII characters"
  | .tooDeep isObject => (Json.ReadDefect.depth isObject).title
  | .web fault => fault.message
  | .invalid _ => defectsText
  | .raised e => e.message

/-- What kind of failure it is. -/
def OperationFault.nature : OperationFault → Nature
  | .raised e => e.nature
  | _ => .other

/-- The failure of a text that holds halves of surrogate pairs: the first run of them. -/
def OperationFault.ofSurrogates (points : CodePoints) : OperationFault :=
  let before := points.takeWhile (!isSurrogate ·)
  .surrogates ((points.drop before.length).takeWhile isSurrogate) before.length

/-- The content of a reported error: a text, which may hold halves of surrogate pairs, or bytes. -/
inductive ErrorBody where
  | text (points : CodePoints)
  | bytes (content : Bytes)
  deriving DecidableEq, Repr

/-- The content as bytes; no half of a surrogate pair can be written. -/
def ErrorBody.toBytes : ErrorBody → Except OperationFault Bytes
  | .text points =>
    match textOf? points with
    | some s => .ok (Utf8.encode s.toList)
    | none => .error (.ofSurrogates points)
  | .bytes content => .ok content

/-- An answer of the web as an operation hands it over: its content may be still to come, and taking it
to its end and closing it may fail. -/
structure Transport where
  status : Int
  headers : Headers
  body : Except OperationFault Bytes

/-- An answer that has come as a whole. -/
def Transport.ofAnswer (a : Web.Answer) : Transport := ⟨a.status, a.headers, .ok a.body⟩

/-- How a call ends. -/
inductive Outcome where
  | response (r : Response)
  /-- An answer of the web, of whatever status. -/
  | answer (t : Transport)
  /-- An error that the interface behind the operation reports. -/
  | apiError (status : Int) (headers : List (String × List String)) (body : ErrorBody)
  /-- An answer of the web that was refused for its status. -/
  | refused (t : Transport)
  /-- A result of a type that is no response. -/
  | other (typeName : String)
  | failure (fault : OperationFault)

/-- A client that operations are called on, made for one call: its type, and what it holds besides the
shared client of the web. -/
structure Target where
  client : String
  held : List (String × Value)

/-- Something that can be called. -/
structure Operation where
  name : String
  formals : List Formal
  perform : Target → List Value → World → Outcome × World

namespace Operation

/-- The verb that the operation is called by. -/
def verb (o : Operation) : String := verbName o.name

/-- The record that stands for all parameters, if the operation has no other. -/
def flattened (o : Operation) : Option Formal := flattened? o.formals

/-- The parameters that the operator sees. -/
def visible (o : Operation) : List Parameter := OperatorConsole.visible o.formals

end Operation

/-- How a client is made for a call, in the world that the operation finds; this may fail. -/
abbrev Factory := World → Except Raised Target × World

/-- A factory of clients that hold nothing of their own. -/
def Factory.plain (client : String) : Factory := fun w => (.ok ⟨client, []⟩, w)

/-- A service: a client and its operations. -/
structure Service where
  /-- The name of the client. -/
  client : String
  factory : Factory
  operations : List Operation

/-- The name that the service is called by. -/
def Service.name (s : Service) : String := serviceName s.client

end OperatorConsole
