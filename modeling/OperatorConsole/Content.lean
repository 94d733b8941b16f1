import OperatorConsole.Json.Basic
import OperatorConsole.Locator
import OperatorConsole.Text.Lines
import OperatorConsole.Web.ContentType
import OperatorConsole.World

/-!
The content behind a locator. A local path is read from the disk; an address of the web is asked for
by a client of its own, which has none of the headers of the shared one, and has to answer with
success. Text from the disk is UTF-8 with any line ends; text from the web is in its character set.
-/
namespace OperatorConsole

/-- Why there is no content. -/
inductive ContentFault where
  | locator (fault : Locator.Fault)
  | disk (fault : DiskFault)
  | encoding (fault : Utf8.Fault)
  | client (fault : Web.ClientFault)
  | web (fault : Web.Fault)
  | text (fault : Web.TextFault)
  deriving DecidableEq, Repr

/-- The report on content that is not there. -/
def ContentFault.message : ContentFault → String
  | .locator fault => fault.message
  | .disk fault => fault.message
  | .encoding fault => fault.message
  | .client fault => fault.message
  | .web fault => fault.message
  | .text fault => fault.message

namespace World

/-- Gets the content of a web address: what is sent, and the answer. -/
def download (w : World) (address : String) : List Web.Request × Except ContentFault Web.Answer :=
  match Web.Client.make "" w.agent [] with
  | .error fault => ([], .error (.client fault))
  | .ok client =>
    let (sent, result) := client.get w.network address
    (sent, (result.bind (·.success)).mapError .web)

/-- The requests that the content of a locator needs. -/
def requestsFor (w : World) (locator : String) : List Web.Request :=
  match Locator.localPath locator with
  | .ok none => (w.download locator).1
  | _ => []

/-- The content of a locator. -/
def contentOf (w : World) (locator : String) : Except ContentFault Bytes := do
  match ← (Locator.localPath locator).mapError .locator with
  | some path => (w.disk.read path).mapError .disk
  | none => return (← (w.download locator).2).body

/-- The text of a file: without a byte-order mark, not even half of one, and with plain line ends. -/
def fileText (content : Bytes) : Except Utf8.Fault String := do
  let cs ← Utf8.decode (Utf8.withoutMark content)
  return String.ofList (Text.joinLineEnds cs)

/-- The text of a locator; text from the web may hold halves of surrogate pairs. -/
def textOf (w : World) (locator : String) : Except ContentFault CodePoints := do
  match ← (Locator.localPath locator).mapError .locator with
  | some path =>
    return codePoints (← (fileText (← (w.disk.read path).mapError .disk)).mapError .encoding)
  | none =>
    let answer ← (w.download locator).2
    (Web.readText (answer.header? "content-type") answer.body).mapError .text

end World

end OperatorConsole
