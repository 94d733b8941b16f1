import OperatorConsole.MediaType
import OperatorConsole.Text.Utf8

/-!
Responses: what an operation answers, and the status codes of answers with the phrases that go with them.
The headers are a map from names to values in the order in which names first appear; names are looked up
in any letter case.
-/
namespace OperatorConsole

namespace Status

/-- The phrases of the status codes that have one. -/
def phrases : List (Nat × String) := [
  (100, "Continue"), (101, "Switching Protocols"), (102, "Processing"), (103, "Early Hints"),
  (200, "OK"), (201, "Created"), (202, "Accepted"), (203, "Non-Authoritative Information"),
  (204, "No Content"), (205, "Reset Content"), (206, "Partial Content"), (207, "Multi-Status"),
  (208, "Already Reported"), (226, "IM Used"), (300, "Multiple Choices"),
  (301, "Moved Permanently"), (302, "Found"), (303, "See Other"), (304, "Not Modified"),
  (305, "Use Proxy"), (307, "Temporary Redirect"), (308, "Permanent Redirect"),
  (400, "Bad Request"), (401, "Unauthorized"), (402, "Payment Required"), (403, "Forbidden"),
  (404, "Not Found"), (405, "Method Not Allowed"), (406, "Not Acceptable"),
  (407, "Proxy Authentication Required"), (408, "Request Timeout"), (409, "Conflict"),
  (410, "Gone"), (411, "Length Required"), (412, "Precondition Failed"),
  (413, "Request Entity Too Large"), (414, "Request-URI Too Long"),
  (415, "Unsupported Media Type"), (416, "Requested Range Not Satisfiable"),
  (417, "Expectation Failed"), (418, "I'm a Teapot"), (421, "Misdirected Request"),
  (422, "Unprocessable Entity"), (423, "Locked"), (424, "Failed Dependency"), (425, "Too Early"),
  (426, "Upgrade Required"), (428, "Precondition Required"), (429, "Too Many Requests"),
  (431, "Request Header Fields Too Large"), (451, "Unavailable For Legal Reasons"),
  (500, "Internal Server Error"), (501, "Not Implemented"), (502, "Bad Gateway"),
  (503, "Service Unavailable"), (504, "Gateway Timeout"), (505, "HTTP Version Not Supported"),
  (506, "Variant Also Negotiates"), (507, "Insufficient Storage"), (508, "Loop Detected"),
  (510, "Not Extended"), (511, "Network Authentication Required")]

/-- A status code with its phrase, if it has one. -/
def line (status : Nat) : String :=
  match phrases.lookup status with
  | some phrase => s!"{status} {phrase}"
  | none => toString status

/-- A status code as it is reported when it stands for an error. -/
def errorText (status : Nat) : String :=
  if status = 404 then s!"{line status} (hint: incorrect number of parameters?)" else line status

end Status

/-- The answer of an operation. -/
structure Response where
  status : Nat
  headers : List (String × List String)
  body : Bytes
  deriving DecidableEq, Repr

namespace Response

/-- An answer with a status and nothing else. -/
def ofStatus (status : Nat) : Response := ⟨status, [], []⟩

/-- An answer whose status is not known to be one. -/
def ofInt? (status : Int) (headers : List (String × List String)) (body : Bytes) : Option Response :=
  if 0 ≤ status then some ⟨status.toNat, headers, body⟩ else none

/-- The values of a header; the first name that is equal up to case decides. -/
def header (r : Response) (name : String) : List String :=
  match r.headers.find? fun entry => Text.lower entry.1.toList == Text.lower name.toList with
  | some (_, values) => values
  | none => []

/-- The media type that the content type begins with, without its parameters. -/
def mediaType (r : Response) : Option String :=
  match r.header "Content-Type" with
  | [] => none
  | value :: _ =>
    match Text.strip (Text.cut ';' value.toList).1 with
    | [] => none
    | type => some (String.ofList type)

/-- The status stands for an error. -/
def isError (r : Response) : Bool := 400 ≤ r.status

/-- The body as text, a byte-order mark left out. -/
def text (r : Response) : String := String.ofList (Utf8.decodeLossy (Utf8.dropMark r.body))

/-- The body is shown as text. -/
def isText (r : Response) : Bool := r.mediaType.any MediaType.isText

end Response

end OperatorConsole
