import OperatorConsole.Session.Run
import OperatorConsole.Settings.Basic
import OperatorConsole.Terminal.Screen

/-!
Sittings: what happens from the start of a session to its end. A sitting runs a script, if it has one,
and then goes on with an operator, if there is one; the operator finds the session as the script left
it. A script that ends with a report ends the sitting, and so does what breaks an interactive run.
-/
namespace OperatorConsole

/-! ### Starting -/

/-- Why a session cannot start. -/
inductive StartFault where
  | client (fault : Web.ClientFault)
  | clash (clash : NameClash)
  deriving DecidableEq, Repr

/-- The directory of a catalog and the state in which its session starts. -/
def Session.begin (settings : Settings) (base : String) (extra : List (String × String))
    (catalog : Catalog) (disk : Disk) (network : Web.Network) :
    Except StartFault (Directory × ShellState) := do
  let client ← (Web.Client.make base settings.agent extra).mapError .client
  let directory ← (Directory.ofCatalog catalog).mapError .clash
  return (directory, ⟨Session.start settings.downloadDir, ⟨disk, client, network, settings.agent, [], []⟩⟩)

/-! ### Sittings -/

/-- What a sitting is to do. -/
structure Plan where
  script : Option String
  /-- An operator takes part. -/
  interactive : Bool
  /-- The progress of the script is shown. -/
  verbose : Bool
  /-- What the script prints is shown. -/
  printing : Bool
  /-- How much of a text the operator sees. -/
  limit : Option Nat

/-- What a sitting has come to: the state, what the terminal shows, and what broke it, if anything did. -/
structure Sitting where
  state : ShellState
  screen : String
  broken : Option Break

/-- The lines that an operator types. Nothing but a line feed ends one. -/
def typedLines (input : String) : List String :=
  let parts := (Text.splitAt '\n' input.toList).map String.ofList
  if parts.getLast? == some "" then parts.dropLast else parts

/-- What the terminal shows of an interactive run. -/
def Shell.Sight.shown : Shell.Sight → String
  | .prompt => Terminal.prompt
  | .line s => Terminal.shellLine s

/-- The script of a sitting. -/
def Sitting.script (directory : Directory) (plan : Plan) (state : ShellState) (text : String) :
    Sitting :=
  let run := Shell.runScript ⟨directory, none⟩ state text
  let lead := if plan.verbose then "Running script... " else ""
  let shown := if plan.printing then String.join (run.printed.map Terminal.shellLine) else ""
  let ending :=
    if run.report.isSome then ""
    else (if plan.verbose then Terminal.message " Done." else "") ++ Terminal.newLine
  ⟨run.state, lead ++ shown ++ ending, run.report.map .report⟩

/-- The part of a sitting that an operator takes part in. -/
def Sitting.interactive (directory : Directory) (plan : Plan) (state : ShellState)
    (input : List String) : Sitting :=
  let run := Shell.interact ⟨directory, plan.limit⟩ state input
  ⟨run.state, String.join (run.seen.map (·.shown)), run.broken⟩

/-- A sitting over what an operator types. -/
def Sitting.run (directory : Directory) (plan : Plan) (state : ShellState) (input : List String) :
    Sitting :=
  let first := match plan.script with
    | some text => Sitting.script directory plan state text
    | none => ⟨state, "", none⟩
  if first.broken.isSome || !plan.interactive then first
  else
    let second := Sitting.interactive directory plan first.state input
    { second with screen := first.screen ++ second.screen }

end OperatorConsole
