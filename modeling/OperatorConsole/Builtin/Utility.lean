import OperatorConsole.Builtin.Call
import OperatorConsole.Json.Path
import OperatorConsole.Json.Printer

/-!
The service `Utility`: headers of the shared client, base64, and selection from JSON documents.
-/
namespace OperatorConsole.Builtin.Utility

/-! ### Headers -/

/-- Writes a header; its name is looked at first. -/
def addHeader (arguments : List Value) (h : Headers) : Except OperationFault Headers :=
  match arguments.map textOf with
  | [none, _] => .error (.noFeature "encode")
  | [some key, none] =>
    match notAscii? key with
    | some fault => .error (.notAscii fault)
    | none => .error (.noFeature "encode")
  | [some key, some value] => (h.set key value).mapError .notAscii
  | _ => .ok h

/-- Removes a header. -/
def removeHeader (arguments : List Value) (h : Headers) : Except OperationFault Headers :=
  match arguments.map textOf with
  | [none] => .error (.noFeature "lower")
  | [some key] => (h.remove key).mapError .notAscii
  | _ => .ok h

/-! ### Base64 -/

/-- The content of a file in base64. -/
def encodeBase64 : List Value → Except OperationFault Response
  | [.file _ content _] => .ok (plainResponse (String.ofList (Base64.encode content)) 200)
  | _ => .error (.noFeature "data")

/-- The content that a text in base64 stands for; a text that is not base64 is answered with the
reason. -/
def decodeText (encoded : String) : Except OperationFault Response :=
  if !encoded.toList.all isAscii then .error .encodedNotAscii
  else match Base64.decode encoded.toList with
    | .ok content => .ok ⟨200, [("Content-Type", ["application/octet-stream"])], content⟩
    | .error fault => .ok (plainResponse s!"Invalid base64 input: {fault.message}" 400)

/-- The content that an argument in base64 stands for. -/
def decodeBase64 (arguments : List Value) : Except OperationFault Response :=
  match arguments.map textOf with
  | [some encoded] => decodeText encoded
  | _ => .error .noEncodedText

/-! ### Selection -/

/-- A selected part as an answer: a string as plain text, anything else as a document. -/
def selected : Json → Except OperationFault Response
  | .text points =>
    match textOf? points with
    | some s => .ok (plainResponse s 200)
    | none => .error (.ofSurrogates points)
  | v => .ok (textResponse (Json.print .indented v) 200 "application/json")

/-- The answer to a selection that fails. -/
def notSelected (reason : String) : Response := plainResponse s!"json_select failed: {reason}" 400

/-- The part of a document that a path leads to. -/
def selectFrom (v : Json) (path : String) : Except OperationFault Response :=
  match Json.select v path.toList with
  | .ok part => selected part
  | .error fault => .ok (notSelected fault.message)

/-- Selects from the text of a document. The document is read before the path is looked at. -/
def jsonSelect (arguments : List Value) : Except OperationFault Response :=
  match arguments.map textOf with
  | [some text, path] =>
    match Json.read text.toList with
    | .error ⟨.depth isObject, _⟩ => .error (.tooDeep isObject)
    | .error fault => .ok (notSelected (fault.message text.toList))
    | .ok v =>
      match path with
      | some path => selectFrom v.distinct path
      | none => .error (.noFeature "strip")
  | _ => .error .noDocument

/-! ### The service -/

/-- The service `Utility`. -/
def client : Client := .plain "UtilityClient" [
  method "add_http_header" [textParameter "key", textParameter "value"] (changingHeaders addHeader),
  method "remove_http_header" [textParameter "key"] (changingHeaders removeHeader),
  method "encode_base64" [⟨"file", .content, .required, .positional⟩] (answering encodeBase64),
  method "decode_base64" [textParameter "encoded"] (answering decodeBase64),
  method "json_select" [textParameter "json_text", textParameter "path"] (answering jsonSelect)]

end OperatorConsole.Builtin.Utility
