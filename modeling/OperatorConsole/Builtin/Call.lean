import OperatorConsole.Catalog.Client

/-!
What the built-in operations have in common: how they take their arguments and what they answer. An
argument that was not given is nothing. The clients of built-in services hold the shared client of the web
and nothing else.
-/
namespace OperatorConsole.Builtin

/-- The text of an argument, if it was given. -/
def textOf : Value → Option String
  | .text s => some s
  | _ => none

/-- An answer that is a text of a media type. -/
def textResponse (s : String) (status : Nat) (mediaType : String) : Response :=
  ⟨status, [("Content-Type", [s!"{mediaType}; charset=utf-8"])], Utf8.encode s.toList⟩

/-- An answer that is plain text. -/
def plainResponse (s : String) (status : Nat) : Response := textResponse s status "text/plain"

/-- A text parameter without a default. -/
def textParameter (name : String) : MethodParameter := ⟨name, .text, .required, .positional⟩

/-- A method that is an operation, of parameters whose types all exist. -/
def method (name : String) (parameters : List MethodParameter)
    (perform : Target → List Value → World → Outcome × World) : Method :=
  ⟨name, true, parameters, none, perform⟩

/-- An operation that only answers. -/
def answering (f : List Value → Except OperationFault Response) (_ : Target) (arguments : List Value)
    (w : World) : Outcome × World :=
  match f arguments with
  | .ok r => (.response r, w)
  | .error fault => (.failure fault, w)

/-- An operation that changes the headers of the shared client; on failure they stay. -/
def changingHeaders (f : List Value → Headers → Except OperationFault Headers) (_ : Target)
    (arguments : List Value) (w : World) : Outcome × World :=
  match f arguments w.client.headers with
  | .ok headers => (.response (.ofStatus 200), w.withHeaders headers)
  | .error fault => (.failure fault, w)

end OperatorConsole.Builtin
