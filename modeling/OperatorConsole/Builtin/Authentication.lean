import OperatorConsole.Builtin.Call
import OperatorConsole.Catalog.Basic
import OperatorConsole.Builtin.Utility

/-!
The service `Authentication`: the authorization header of the shared client. Together with `Utility`
it is part of every catalog that is loaded.
-/
namespace OperatorConsole.Builtin.Authentication

/-- The header that carries credentials. -/
def headerName : String := "Authorization"

/-- An argument as it is written into a text. -/
def shown (argument : Option String) : String := argument.getD "None"

/-- Writes credentials: a scheme and a token. -/
def useToken (arguments : List Value) (h : Headers) : Except OperationFault Headers :=
  match arguments.map textOf with
  | [scheme, token] => (h.set headerName s!"{shown scheme} {shown token}").mapError .notAscii
  | _ => .ok h

/-- The scheme before the first blank, and what follows it. -/
def describe (value : String) : Json :=
  let (scheme, parameter) := Text.cut ' ' value.toList
  .object [
    (codePoints "scheme", .text (scheme.map Char.toNat)),
    (codePoints "parameter", .text ((parameter.getD []).map Char.toNat))]

/-- The credentials as a document; without credentials the answer is empty. -/
def getToken (_ : Target) (_ : List Value) (w : World) : Outcome × World :=
  match w.client.headers.get? headerName with
  | .error fault => (.failure (.notAscii fault), w)
  | .ok value =>
    match value.getD "" with
    | "" => (.response (.ofStatus 200), w)
    | value =>
      (.response (textResponse (Json.print .spaced (describe value)) 200 "application/json"), w)

/-- Removes the credentials. -/
def reset (_ : List Value) (h : Headers) : Except OperationFault Headers :=
  (h.remove headerName).mapError .notAscii

/-- The service `Authentication`. -/
def client : Client := .plain "AuthenticationClient" [
  method "use_token" [textParameter "scheme", textParameter "token"] (changingHeaders useToken),
  method "get_token" [] getToken,
  method "reset" [] (changingHeaders reset)]

end OperatorConsole.Builtin.Authentication

namespace OperatorConsole

/-- The catalog of the built-in services. -/
def builtinCatalog : Catalog := .ofClients [Builtin.Utility.client, Builtin.Authentication.client]

end OperatorConsole
