import OperatorConsole.Text.Base64
import OperatorConsole.Web.Exchange

/-!
The client that a session shares: a base address and the headers of every request. Operations change
the headers; content from elsewhere is asked for by a client of its own, so that nothing that was
written there is sent to others.
-/
namespace OperatorConsole.Web

/-- A base address and the headers that every request carries. -/
structure Client where
  base : Address
  headers : Headers

/-- Why a client cannot be made. -/
inductive ClientFault where
  | base (fault : Address.Fault)
  | header (fault : NotAscii)
  deriving DecidableEq, Repr

/-- The report on a client that cannot be made. -/
def ClientFault.message : ClientFault → String
  | .base fault => fault.message
  | .header fault => fault.message

/-- The headers of every client before its own are put over them. -/
def commonHeaders : Headers := [
  ("accept", "*/*"), ("accept-encoding", "gzip, deflate"), ("connection", "keep-alive"),
  ("user-agent", "")]

/-- The headers that a client is made with: the agent, any content, and extra ones, which replace
those of exactly the same name. -/
def requestedHeaders (agent : String) (extra : List (String × String)) : List (String × String) :=
  extra.foldl put [("User-Agent", agent), ("Accept", "*/*")]
where
  /-- Puts a value under a name: in its place, or at the end. -/
  put : List (String × String) → String × String → List (String × String)
    | [], line => [line]
    | (n, v) :: rest, (name, value) =>
      if n == name then (name, value) :: rest else (n, v) :: put rest (name, value)

/-- The client of a base address, an agent and extra headers. -/
def Client.make (base agent : String) (extra : List (String × String)) : Except ClientFault Client := do
  let base ← ((Address.read base).bind Address.asBase).mapError .base
  let own ← (asLines (requestedHeaders agent extra)).mapError .header
  return ⟨base, commonHeaders.update own⟩

/-- The user of an address as basic credentials: name and password, of which one is not empty. -/
def credentials? (a : Address) : Option String :=
  let (name, password) := Text.cut ':' a.user.toList
  let password := password.getD []
  if name.isEmpty && password.isEmpty then none
  else
    let pair := Text.Percent.decode name ++ ':' :: Text.Percent.decode password
    some ("Basic " ++ String.ofList (Base64.encode (Utf8.encode pair)))

/-- The request of a client for an address: below the base unless it is full, a user in it giving
the credentials. -/
def Client.request (c : Client) (target : String) : Except Fault Request := do
  let a ← (Address.read target).mapError .address
  let address ← (c.base.resolve a).mapError .address
  let headers := match credentials? address with
    | none => c.headers
    | some value => c.headers.withValue "authorization" value
  return ⟨address, headers⟩

/-- Gets the content of an address: what is sent, and the answer of whatever status. -/
def Client.get (c : Client) (network : Network) (target : String) :
    List Request × Except Fault Answer :=
  match c.request target with
  | .error fault => ([], .error fault)
  | .ok request => send network request

end OperatorConsole.Web
