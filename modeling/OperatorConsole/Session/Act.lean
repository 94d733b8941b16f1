import OperatorConsole.Session.Shell

/-!
Acts: a line carried out step by step. A step changes the state, prints, or reports. How a report is
taken is the policy of the shell: it is printed, and the act goes on, or it breaks the act. A failure
whose text cannot be had is not reported: what is raised in its place breaks the act under either policy.
What was done before a break stays done.
-/
namespace OperatorConsole

/-- How a shell takes reports. -/
inductive Policy where
  /-- A report is printed, and the act goes on. -/
  | printing
  /-- A report breaks the act. -/
  | ending
  deriving DecidableEq, Repr

/-- What breaks an act. -/
inductive Break where
  | failure (f : Failure)
  | report (r : Report)
  deriving DecidableEq, Repr

/-- What is raised in place of a text, as what breaks an act. -/
def Break.ofTold (t : Told) : Break := .failure (.operation (.raised (.told t)))

/-- The report on what broke an act. -/
def Break.toReport : Break → Report
  | .failure f => ⟨f.message, .failure f⟩
  | .report r => r

/-- What an act has come to: the state, and what was printed, with the reports among it. -/
structure Course where
  state : ShellState
  printed : List String
  reported : List Report

/-- Steps that change a course, up to a break. -/
abbrev Act := ExceptT Break (StateM Course)

namespace Act

/-- What an act comes to from a course on. -/
def runFrom (act : Act α) (c : Course) : Except Break α × Course := act.run.run c

/-- Prints lines. -/
def print (lines : List String) : Act Unit :=
  modify fun c => { c with printed := c.printed ++ lines }

/-- The session as it is. -/
def session : Act Session := return (← get).state.session

/-- Changes the session. -/
def alter (f : Session → Session) : Act Unit :=
  modify fun c => { c with state := { c.state with session := f c.state.session } }

/-- Reports on the line. -/
def report (p : Policy) (r : Report) : Act Unit :=
  match p with
  | .printing =>
    modify fun c => { c with printed := c.printed ++ [r.message], reported := c.reported ++ [r] }
  | .ending => throw (.report r)

end Act

namespace Shell

open Act

/-! ### Reading and changing the session

Every act says whether the command is known.
-/

/-- Reads or sets whether responses are shown in detail. -/
def performDebug (isSet : Bool) (arguments : List Argument) : Act Bool := do
  let known ← match isSet, arguments with
    | false, [] => pure true
    | true, [a] =>
      if a.name == "" && (a.value == "on" || a.value == "off") then
        alter fun s => { s with debug := a.value == "on" }
        pure true
      else pure false
    | _, _ => pure false
  print [debugLine (← session)]
  return known

/-- Reads or sets where content is saved. -/
def performDownloadDir (isSet : Bool) (arguments : List Argument) : Act Bool := do
  let known ← match isSet, arguments with
    | false, [] => pure true
    | true, [a] =>
      if a.name == "" then
        alter fun s => { s with downloadDir := DiskPath.ofString a.value }
        pure true
      else pure false
    | _, _ => pure false
  print [downloadDirLine (← session)]
  return known

/-- Reports that a variable is not defined. -/
def reportUndefined (p : Policy) (name : String) : Act Bool := do
  report p ⟨undefinedVariable name, .none⟩
  return true

/-- Reads a variable. -/
def performRead (sh : Shell) (p : Policy) (a : Argument) : Act Bool := do
  if a.name != "" then return false
  else match (← session).vars.lookup a.value with
    | some value =>
      print [s!"var: ${a.value} = {sh.shorten value}"]
      return true
    | none => reportUndefined p a.value

/-- Defines a variable. -/
def performDefine (sh : Shell) (name value : String) : Act Bool := do
  alter (·.define name value)
  print [s!"var ${name} = {sh.shorten value}"]
  return true

/-- Defines a variable by the text or the variable that is given, or undefines one. -/
def performWrite (sh : Shell) (p : Policy) (a : Argument) : Act Bool := do
  let vars := (← session).vars
  if a.name == "" then
    if vars.has a.value then
      alter fun s => { s with vars := s.vars.unset a.value }
      return true
    else reportUndefined p a.value
  else match a.form with
    | .plain | .document => sh.performDefine a.name a.value
    | .reference =>
      match vars.lookup a.value with
      | some value => sh.performDefine a.name value
      | none => reportUndefined p a.value

/-- Reads, defines or undefines a variable. -/
def performVariable (sh : Shell) (p : Policy) (isSet : Bool) : List Argument → Act Bool
  | [a] => if isSet then sh.performWrite p a else sh.performRead p a
  | _ => return false

/-- Ends a command that reads or changes the session; one that is not known is reported. -/
def settle (p : Policy) (known : Bool) : Act Unit := do
  unless known do report p ⟨unknownChange, .none⟩
  print [""]

/-- Carries out a command that reads or changes the session, if it is known. -/
def performKnown (sh : Shell) (p : Policy) (isSet : Bool) (c : Command) : Act Bool :=
  match c.verb with
  | "debug" => performDebug isSet c.arguments
  | "downloaddir" => performDownloadDir isSet c.arguments
  | "var" => sh.performVariable p isSet c.arguments
  | _ => return false

/-- Carries out a command that reads or changes the session. -/
def performChange (sh : Shell) (p : Policy) (isSet : Bool) (c : Command) : Act Unit := do
  settle p (← sh.performKnown p isSet c)

/-! ### Responses -/

/-- Shows a response in detail if the session is to. -/
def performDetail (r : Response) : Act Unit := do
  if (← session).debug then print (detailLines r)

/-- Writes content into a new file of the download directory: its address, or what went wrong. -/
def performWriteFile (s : Session) (type : String) (content : Bytes) :
    Act (Except DiskFault String) :=
  modifyGet fun c =>
    let (disk, saved) :=
      saveContent c.state.world.disk s.downloadDir (MediaType.extensionFor type) content
    (saved, { c with state := { c.state with world := { c.state.world with disk := disk } } })

/-- Saves a response if it is one that is saved; says whether it was. -/
def performSave (r : Response) : Act Bool := do
  let s ← session
  match savedType? s r with
  | none => return false
  | some type =>
    match ← performWriteFile s type r.body with
    | .error fault => throw (.failure (.saving fault))
    | .ok address =>
      print [s!"Response saved as '{address}'"]
      alter (·.define lastResponseUri address)
      return true

/-- Captures the text of a response and shows it. -/
def performCapture (sh : Shell) (r : Response) : Act Unit := do
  let text := if r.isText then r.text else ""
  alter (·.define lastResponse text)
  print (if (Text.strip text.toList).isEmpty then [] else [sh.shorten text])

/-- Reports on the status of a response, if it is an error. -/
def reportStatus (p : Policy) (r : Response) : Act Unit :=
  match statusReport? r with
  | none => return ()
  | some rep => report p rep

/-- Takes a response: it is captured in the reserved variables, shown, and saved if it is no text. -/
def performResponse (sh : Shell) (p : Policy) (r : Response) : Act Unit := do
  alter (noteStatus · r)
  performDetail r
  let saved ← performSave r
  unless saved do sh.performCapture r
  reportStatus p r

/-! ### Lines -/

/-- The response to a line. -/
def performCall (sh : Shell) (line : String) : Act Response := do
  let result ← modifyGet fun c =>
    let (result, world) := sh.directory.execute c.state.session.vars c.state.world line
    (result, { c with state := { c.state with world := world } })
  match result with
  | .error f => throw (.failure f)
  | .ok r => return r

/-- Reports on what broke an act. A report that did is made again. -/
def reportBreak (p : Policy) : Break → Act Unit
  | .failure f =>
    match f.text with
    | .ok _ => report p (failureReport f)
    | .error t => throw (.ofTold t)
  | .report r => report p r

/-- Executes a line and takes its response. -/
def performExecute (sh : Shell) (p : Policy) (line : String) : Act Unit := do
  tryCatch (sh.performCall line >>= sh.performResponse p) (reportBreak p)
  print [""]

/-- Carries out a line. -/
def perform (sh : Shell) (p : Policy) (line : String) : Act Unit := do
  match classify line with
  | .nothing => return ()
  | .listing => print ("Vars:" :: (← session).vars.map fun (name, _) => s!"  ${name}")
  | .help service => print (sh.helpLines service)
  | .change isSet c => sh.performChange p isSet c
  | .execute => sh.performExecute p line

end Shell

end OperatorConsole
