import OperatorConsole.Response
import OperatorConsole.Web.Coding
import OperatorConsole.Web.Reference

/-!
Exchanges with the web. A request goes to the network, which answers or fails; an answer with a new
location is followed, a bounded number of times. Every request that is sent is listed, also when the
exchange fails in the end.
-/
namespace OperatorConsole.Web

/-- A request for the content of an address. -/
structure Request where
  address : Address
  headers : Headers
  deriving DecidableEq, Repr

/-- The answer to a request, with the address that gave it. -/
structure Answer where
  status : Nat
  headers : Headers
  body : Bytes
  address : String
  deriving DecidableEq, Repr

/-- What the network does with a request. -/
inductive Reply where
  | answer (status : Nat) (headers : Headers) (body : Bytes)
  | refusal (message : String)
  | noTransport

/-- The network: its reply to each request. -/
abbrev Network := Request → Reply

/-- Why an exchange fails. -/
inductive Fault where
  | address (fault : Address.Fault)
  | refusal (message : String)
  | noTransport
  | tooManyHops
  | location (fault : Address.Fault)
  | status (answer : Answer)
  /-- A header of the answer is not ASCII. -/
  | header (fault : NotAscii)
  /-- The content of the answer is packed wrongly. -/
  | packed (fault : Packed.Fault)
  /-- The address that answered has no scheme. -/
  | noScheme (text : String)
  /-- A host is named in an encoding that means no name. -/
  | host (fault : HostName.Fault)
  deriving DecidableEq, Repr

/-! ### Answers -/

/-- The values of a header of an answer in one text. -/
def Answer.header? (a : Answer) (name : String) : Option String :=
  match a.headers.values name with
  | [] => none
  | values => some (", ".intercalate values)

/-- The status asks for another address. -/
def Answer.isRedirect (a : Answer) : Bool := [301, 302, 303, 307, 308].contains a.status

/-- The location that an answer refers to. -/
def Answer.location? (a : Answer) : Option String :=
  if a.isRedirect then a.header? "location" else none

/-- An answer as a response: headers grouped by name. -/
def Answer.toResponse (a : Answer) : Response := ⟨a.status, a.headers.grouped, a.body⟩

/-- The phrase of a status in reports on the web. -/
def phrase (status : Nat) : String :=
  if status = 418 then "I'm a teapot" else (Status.phrases.lookup status).getD ""

/-- What a status other than success is called. -/
def statusTitle (status : Nat) : String :=
  match status / 100 with
  | 1 => "Informational response"
  | 3 => "Redirect response"
  | 4 => "Client error"
  | 5 => "Server error"
  | _ => "Invalid status code"

/-- The page that explains a status. -/
def statusPage (status : Nat) : String :=
  s!"https://developer.mozilla.org/en-US/docs/Web/HTTP/Status/{status}"

/-- The report on an answer that is no success. -/
def Answer.report (a : Answer) : String :=
  let target := match a.location? with
    | some location => s!"\nRedirect location: '{location}'"
    | none => ""
  s!"{statusTitle a.status} '{a.status} {phrase a.status}' for url '{a.address}'{target}" ++
    s!"\nFor more information check: {statusPage a.status}"

/-- The answer, if it is a success. -/
def Answer.success (a : Answer) : Except Fault Answer :=
  if a.status / 100 = 2 then .ok a else .error (.status a)

/-- The report on an exchange that fails. -/
def Fault.message : Fault → String
  | .address fault => fault.message
  | .refusal message => message
  | .noTransport => "Request URL is missing an 'http://' or 'https://' protocol."
  | .tooManyHops => "Exceeded maximum allowed redirects."
  | .location fault => s!"Invalid URL in location header: {fault.message}."
  | .status answer => answer.report
  | .header fault => fault.message
  | .packed fault => fault.message
  | .noScheme text => s!"unknown url type: {quoted text}"
  | .host fault => fault.message

/-! ### Taking an answer -/

/-- The text of an address as a request of it is remembered: a fragment without text is left out. -/
def rememberedText (a : Address) : String :=
  let cs := a.text.toList
  String.ofList (if cs.getLast? == some '#' then cs.dropLast else cs)

/-- The answer to a request, its content without codings. Its headers are ASCII, and only an address
with a scheme is remembered. -/
def Request.answered (r : Request) (status : Nat) (headers : Headers) (content : Bytes) :
    Except Fault Answer := do
  let _ ← (asLines headers).mapError .header
  let plain ← (plainContent headers content).mapError .packed
  if r.address.scheme == "" then throw (.noScheme (rememberedText r.address))
  return ⟨status, headers, plain, r.address.text⟩

/-! ### Following locations -/

/-- The hosts of two addresses have the same name. -/
def sameHost (a b : Address) : Except Fault Bool := do
  let first ← a.hostName.mapError .host
  let second ← b.hostName.mapError .host
  return first == second

/-- The addresses have scheme, host and port in common. -/
def sameOrigin (a b : Address) : Except Fault Bool := do
  if a.scheme != b.scheme then return false
  return (← sameHost a b) && a.actualPort == b.actualPort

/-- A plain address goes on to the secure address of the same host. -/
def isUpgrade (a b : Address) : Except Fault Bool := do
  return (← sameHost a b) && a.scheme == "http" && a.actualPort == some 80 && b.scheme == "https" &&
    b.actualPort == some 443

/-- The address that a reference leads to. One with a scheme but no host has the host of the address
that it stands at, and a fragment is kept unless there is a new one. -/
def followed (a reference : Address) : Except Fault Address := do
  let reference ←
    if reference.scheme == "" then pure reference
    else if (← reference.hostName.mapError .host) != [] then pure reference
    else
      let _ ← a.hostName.mapError .host
      (reference.withHost a.host).mapError .address
  let next ←
    if reference.isFull then pure reference
    else
      (Address.read (String.ofList (Reference.join a.text.toList reference.text.toList))).mapError
        .address
  if a.fragmentText != [] && next.fragmentText == [] then
    (next.withFragment a.fragmentText).mapError .address
  else return next

/-- The request that a location asks for. Credentials stay with their origin. -/
def Request.follow (r : Request) (location : String) : Except Fault Request := do
  let reference ← (Address.read location).mapError .location
  let address ← followed r.address reference
  let kept ← do
    if ← sameOrigin address r.address then pure true else isUpgrade r.address address
  return ⟨address, if kept then r.headers else r.headers.without "authorization"⟩

/-- Sends a request and follows locations, `hops` requests in all: what was sent, and the answer. -/
def exchange (network : Network) : Nat → Request → List Request × Except Fault Answer
  | 0, _ => ([], .error .tooManyHops)
  | hops + 1, request =>
    match network request with
    | .refusal message => ([request], .error (.refusal message))
    | .noTransport => ([request], .error .noTransport)
    | .answer status headers body =>
      match request.answered status headers body with
      | .error fault => ([request], .error fault)
      | .ok answer =>
        match answer.location? with
        | none => ([request], .ok answer)
        | some location =>
          match request.follow location with
          | .error fault => ([request], .error fault)
          | .ok next =>
            let (sent, result) := exchange network hops next
            (request :: sent, result)

/-- The most requests that one exchange sends. -/
def maxHops : Nat := 21

/-- Sends a request and follows locations. -/
def send (network : Network) (request : Request) : List Request × Except Fault Answer :=
  exchange network maxHops request

/-! ### Routes -/

/-- A network that knows the replies of some addresses; any other is not found. -/
def ofRoutes (routes : List (String × Reply)) : Network := fun request =>
  match routes.lookup request.address.text with
  | some reply => reply
  | none =>
    let body := Utf8.encode "\x7b\"detail\":\"not found\"\x7d".toList
    .answer 404 [("content-type", "application/json"), ("content-length", toString body.length)] body

/-- A network that reaches no host. -/
def unreachable : Network := fun request =>
  if request.address.scheme == "http" || request.address.scheme == "https" then
    .refusal "All connection attempts failed"
  else .noTransport

end OperatorConsole.Web
