import OperatorConsole.Catalog.Reference
import OperatorConsole.Invocation.Options
import OperatorConsole.Session.Sitting
import OperatorConsole.Text.UpperCase

/-!
A whole invocation: settings, script and catalog are loaded, and the sitting runs. What goes wrong on
the way is reported on the terminal, with what is behind it, or breaks the invocation off; either way
the exit code is one. An invocation whose arguments are misused has the exit code two.
-/
namespace OperatorConsole

/-- What an invocation finds around it. -/
structure Machine where
  environment : Environment
  /-- The settings file of the user. -/
  userFile : DiskPath
  disk : Disk
  modules : Modules
  network : Web.Network
  /-- What is typed. -/
  input : String
  /-- How many milliseconds loading takes, as it is shown. -/
  elapsed : String

/-- Why an invocation breaks off without a report of its own. -/
inductive Breakdown where
  | settings (fault : SettingsFault)
  /-- The settings name no level of a log. -/
  | logLevel (name : String)
  | script (fault : Utf8.Fault)
  | markup (fault : Terminal.MarkupFault)
  | catalog (fault : LoadFault)
  | client (fault : Web.ClientFault)
  /-- What broke the interactive run. -/
  | failure (f : Failure)
  deriving DecidableEq, Repr

/-- What is said of an invocation that breaks off; of settings that are not valid nothing is said but
their defects. -/
def Breakdown.message : Breakdown → String
  | .settings (.invalid _) => ""
  | .settings (.encoding fault) => fault.message
  | .settings (.disk fault) => fault.message
  | .logLevel name => s!"Unknown level: {quoted name}"
  | .script fault => fault.message
  | .markup fault => fault.message
  | .catalog fault => fault.text.toOption.getD ""
  | .client fault => fault.message
  | .failure f => f.message

/-- How an invocation ends. -/
structure Ending where
  exitCode : Nat
  screen : String
  disk : Disk
  breakdown : Option Breakdown

/-- Why an invocation ends early. -/
inductive Halt where
  /-- With a message and what is behind it. -/
  | reported (message : String) (cause : Option String)
  | broken (breakdown : Breakdown)
  deriving DecidableEq, Repr

namespace Halt

/-- What the terminal shows at the end. -/
def screen : Halt → String
  | .reported message cause =>
    let behind := match cause with
      | some cause => if cause == "" || cause == message then "" else Terminal.message cause
      | none => ""
    Terminal.newLine ++ Terminal.message message ++ behind
  | .broken _ => ""

/-- What breaks the invocation off. -/
def breakdown? : Halt → Option Breakdown
  | .reported .. => none
  | .broken breakdown => some breakdown

/-- The ending after what the terminal has shown. -/
def ending (h : Halt) (shown : String) (d : Disk) : Ending := ⟨1, shown ++ h.screen, d, h.breakdown?⟩

/-- A catalog cannot be loaded. -/
def ofLoad (fault : LoadFault) : Halt :=
  match fault.nature.isReported, fault.text, fault.detail? with
  | true, .ok message, .ok cause => .reported (if message == "" then fault.kind else message) cause
  | _, _, _ => .broken (.catalog fault)

/-- A session cannot start. -/
def ofStart : StartFault → Halt
  | .client fault => .broken (.client fault)
  | .clash clash => .reported clash.message none

/-- The interactive run was broken by a failure. -/
def ofFailure (f : Failure) : Halt :=
  if f.nature.isReported then .reported ((f.raised?.map (·.title)).getD f.message) none
  else .broken (.failure f)

/-- A script ended with a report. -/
def ofReport (r : Report) : Halt :=
  let cause := match r.cause with
    | .failure f => some f.message
    | _ => none
  .reported (if r.message == "" then "ShellError" else r.message) cause

/-- A sitting was broken. -/
def ofBreak : Break → Halt
  | .failure f => ofFailure f
  | .report r => ofReport r

end Halt

namespace Machine

/-! ### Preparing -/

/-- The levels of a log. -/
def logLevels : List String :=
  ["CRITICAL", "FATAL", "ERROR", "WARN", "WARNING", "INFO", "DEBUG", "NOTSET"]

/-- The text of a script. -/
def scriptText (m : Machine) (name : String) : Except Halt String :=
  let path := DiskPath.ofString name
  match m.disk.isFile path with
  | .error fault => .error (.reported fault.message none)
  | .ok false => .error (.reported s!"Script file not found - '{path.text}'" none)
  | .ok true =>
    match m.disk.read path with
    | .error fault => .error (.reported fault.message none)
    | .ok content => (World.fileText content).mapError (.broken ∘ .script)

/-- The settings and the script of an invocation. -/
def prepare (m : Machine) (o : Options) : Except Halt (Settings × Option String) := do
  let settings ← (Settings.load m.environment m.disk m.userFile).mapError (.broken ∘ .settings)
  let level := String.ofList (Text.upper settings.logLevel.toList)
  if !o.verbose && !logLevels.contains level then throw (.broken (.logLevel level))
  let script ← o.script.mapM m.scriptText
  return (settings, script)

/-! ### Running -/

/-- What the terminal shows before a catalog is loaded. -/
def loadingLine (o : Options) : Except Terminal.MarkupFault String :=
  let name := match o.catalog with
    | none | some "" => "built-in"
    | some reference => reference
  Terminal.openMessage s!"Loading catalog '{name}'..."

/-- What the terminal shows after a catalog was loaded. -/
def loadedLines (m : Machine) (o : Options) (catalog : Catalog) : String :=
  let target := match o.baseUrl with
    | none | some "" => "no base URL"
    | some base => base
  Terminal.message s!" Done ({m.elapsed}ms)." ++ Terminal.newLine ++
    if o.quit then "" else Terminal.banner catalog.size target

/-- The plan of the sitting. -/
def plan (o : Options) (settings : Settings) (script : Option String) : Plan :=
  ⟨script, !o.quit, o.verbose, o.printing, limitOf (o.printLength.getD settings.shown)⟩

/-- The sitting with a catalog, after what the terminal has shown. -/
def sit (m : Machine) (o : Options) (settings : Settings) (script : Option String)
    (catalog : Catalog) (shown : String) : Ending :=
  match Session.begin settings (o.baseUrl.getD "") [] catalog m.disk m.network with
  | .error fault => (Halt.ofStart fault).ending shown m.disk
  | .ok (directory, state) =>
    let sitting := Sitting.run directory (plan o settings script) state (typedLines m.input)
    let shown := shown ++ sitting.screen
    let disk := sitting.state.world.disk
    match sitting.broken with
    | some b => (Halt.ofBreak b).ending shown disk
    | none => ⟨0, shown, disk, none⟩

/-- Runs an invocation. -/
def run (m : Machine) (o : Options) : Ending :=
  match m.prepare o with
  | .error halt => halt.ending "" m.disk
  | .ok (settings, script) =>
    let progress := script.isNone || o.verbose
    match if progress then loadingLine o else .ok "" with
    | .error fault => (Halt.broken (.markup fault)).ending "" m.disk
    | .ok shown =>
      match loadCatalog m.modules (o.catalog.getD "") with
      | .error fault => (Halt.ofLoad fault).ending shown m.disk
      | .ok catalog =>
        let shown := if progress then shown ++ m.loadedLines o catalog else shown
        m.sit o settings script catalog shown

/-- Runs an invocation by its arguments; `help` is the text that help shows. -/
def invoke (m : Machine) (help : String) (arguments : List String) : Ending :=
  match Options.read arguments with
  | none => ⟨2, "", m.disk, none⟩
  | some .help => ⟨0, help, m.disk, none⟩
  | some (.run options) => m.run options

end Machine

end OperatorConsole
