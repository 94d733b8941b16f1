import OperatorConsole.Packed.Frame
import OperatorConsole.Text.Blank
import OperatorConsole.Text.Lines
import OperatorConsole.Web.Headers

/-!
Codings of content. An answer lists the codings that its content went through, the last one outermost;
they are taken off again in turn. Codings that are not known are passed over.
-/
namespace OperatorConsole.Web

/-- A way to pack content. -/
inductive Coding where
  /-- Blocks in the frame of a file. -/
  | gzip
  /-- Blocks in a short frame, or by mistake in none. -/
  | deflate
  deriving DecidableEq, Repr

/-- The names of the codings. -/
def codingNames : List (String × Coding) := [("gzip", .gzip), ("deflate", .deflate)]

/-- The codings of content, in the order in which they were put on. -/
def codingsOf (h : Headers) : List Coding :=
  (h.values "content-encoding").flatMap fun value =>
    (Text.splitAt ',' value.toList).filterMap fun name =>
      codingNames.lookup (smallAscii (String.ofList (Text.strip name)))

/-- Content without a coding. -/
def Coding.takeOff (content : Bytes) : Coding → Except Packed.Fault Bytes
  | .gzip => Packed.Frame.file.unpack content
  | .deflate =>
    match Packed.Frame.short.unpack content with
    | .ok plain => .ok plain
    | .error _ => Packed.Frame.none.unpack content

/-- Content without any of its codings. -/
def plainContent (h : Headers) (content : Bytes) : Except Packed.Fault Bytes :=
  (codingsOf h).reverse.foldlM Coding.takeOff content

end OperatorConsole.Web
