import OperatorConsole.Disk.Store
import OperatorConsole.Value
import OperatorConsole.Web.Client

/-!
The world of a session: the local disk, the client that all operations share, and the network behind
it. What is sent, and what operations note about themselves, is kept in order.
-/
namespace OperatorConsole

/-- Everything outside the session that operations and arguments can reach. -/
structure World where
  disk : Disk
  client : Web.Client
  network : Web.Network
  /-- How content that arguments ask for is asked for. -/
  agent : String
  /-- The requests that were sent. -/
  sent : List Web.Request
  /-- What operations noted: a name and values. -/
  notes : List (String × List Value)

namespace World

/-- The world after requests were sent. -/
def withSent (w : World) (requests : List Web.Request) : World := { w with sent := w.sent ++ requests }

/-- The world after an operation made a note. -/
def withNote (w : World) (name : String) (values : List Value) : World :=
  { w with notes := w.notes ++ [(name, values)] }

/-- The world with other headers of the shared client. -/
def withHeaders (w : World) (headers : Headers) : World :=
  { w with client := { w.client with headers := headers } }

end World

end OperatorConsole
