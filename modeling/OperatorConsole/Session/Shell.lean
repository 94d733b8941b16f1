import OperatorConsole.Session.Execute

/-!
The shell: what it works with, and what it shows. A line lists the variables, asks for help, reads or
changes the session, or is executed; what is printed and reported in each case, and how content is saved.
-/
namespace OperatorConsole

/-- What a shell works with: the services, and how much of a text it shows, if there is a limit. -/
structure Shell where
  directory : Directory
  limit : Option Nat

/-- The session and the world around it. -/
structure ShellState where
  session : Session
  world : World

/-- What is behind a report. -/
inductive Cause where
  /-- Nothing but the line itself. -/
  | none
  /-- The status of a response. -/
  | status
  | failure (f : Failure)
  deriving DecidableEq, Repr

/-- A report on a line. -/
structure Report where
  message : String
  cause : Cause
  deriving DecidableEq, Repr

namespace Shell

/-- As much of a text as is shown. -/
def shorten (sh : Shell) (s : String) : String :=
  match sh.limit with
  | none => s
  | some n => if s.length ≤ n then s else takeText n s ++ " ..."

/-! ### Help -/

/-- The help on the shell. -/
def shellHelp : List String := [
  "Shell help:",
  "  get/set debug on/off       - Turn on/off debug mode",
  "  get/set downloaddir <path> - Get or set download dir",
  "  get/set var <name>=<value> - Get or set variable",
  "  set var <name>             - Undefine variable",
  "  vars                       - List all defined variables",
  "  help                       - Help",
  "  q/quit/exit/bye            - Quit"]

/-- What a request for help prints. -/
def helpLines (sh : Shell) (service : String) : List String :=
  if service == "shell" then shellHelp ++ [""]
  else if service == "" then [sh.directory.help "", "'help shell' to print help for this shell", ""]
  else [sh.directory.help service]

/-! ### Reading and changing the session -/

/-- The report on a change that is not known. -/
def unknownChange : String := "Error: Unknown command"

/-- The report on a variable that is not defined. -/
def undefinedVariable (name : String) : String := s!"Error: ${name} is undefined"

/-- Whether responses are shown in detail. -/
def debugLine (s : Session) : String := if s.debug then "Debug: On" else "Debug: Off"

/-- Where content is saved. -/
def downloadDirLine (s : Session) : String := s!"Download dir: '{s.downloadDir.text}'"

/-! ### Responses -/

/-- A header in detail. -/
def headerLine (header : String × List String) : String :=
  s!"  {header.1} = " ++ ", ".intercalate header.2

/-- A response in detail. -/
def detailLines (r : Response) : List String :=
  (if r.isError then s!"Error: {Status.errorText r.status}" else s!"Status code: {Status.line r.status}") ::
    if r.headers.isEmpty then []
    else "Headers:" :: r.headers.map headerLine

/-- Saves content under a new name in a directory: the disk after it and the address of the file, or
what went wrong. -/
def saveContent (d : Disk) (directory : DiskPath) (extension : String) (content : Bytes) :
    Disk × Except DiskFault String :=
  match d.expandHome directory with
  | .error fault => (d, .error fault)
  | .ok directory =>
    match d.makeDirectories directory with
    | (d, some fault) => (d, .error fault)
    | (d, none) =>
      let (name, d) := d.drawName
      let path := directory.join (DiskPath.ofString s!"{name}.{extension}")
      match d.write path content with
      | .error fault => (d, .error fault)
      | .ok d => (d, .ok (d.fileAddress path))

/-- The media type under which a response is saved, if it is one that is saved. -/
def savedType? (s : Session) (r : Response) : Option String :=
  match r.mediaType with
  | none => none
  | some type =>
    if MediaType.isText type || r.body.isEmpty || (r.isError && !s.debug) then none else some type

/-- The report on the status of a response, if it is an error. -/
def statusReport? (r : Response) : Option Report :=
  if r.isError then some ⟨s!"Error: {Status.errorText r.status}", .status⟩ else none

/-- The session that knows of a response only its status. -/
def noteStatus (s : Session) (r : Response) : Session :=
  s.clearLast.define lastResponseStatus (toString r.status)

/-! ### Lines -/

/-- The report on a line that gives no response. -/
def failureReport (f : Failure) : Report := ⟨f.nature.lead ++ f.message, .failure f⟩

/-- What a line asks for. -/
inductive Request where
  | nothing
  | listing
  | help (service : String)
  | change (isSet : Bool) (c : Command)
  | execute

/-- Sorts a line by its first word. -/
def classify (line : String) : Request :=
  match (Text.words line.toList).map String.ofList with
  | [] => .nothing
  | first :: others =>
    if line == "vars" then .listing
    else if first == "help" then .help (others.head?.getD "")
    else if first == "get" || first == "set" then
      match Command.read line with
      | .ok c => .change (first == "set") c
      | .error _ => .execute
    else .execute

end Shell

end OperatorConsole
