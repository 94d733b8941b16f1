import OperatorConsole.Invocation.Basic

/-!
The command line. What an invocation needs is taken from the machine, the invocation is run, and what
it wrote is put on the terminal and on the disk. No host is reached from here.
-/
namespace OperatorConsole.Machine

/-- The variables of the environment that an invocation depends on. -/
def environmentNames : List String := [
  "HOME", "XDG_CONFIG_HOME", "APICONSOLE_HTTP_TIMEOUT_SECONDS", "APICONSOLE_USER_AGENT",
  "APICONSOLE_PRINT_MAX_CHARS", "APICONSOLE_DOWNLOAD_DIR", "APICONSOLE_LOG_LEVEL"]

/-- What help shows. -/
def helpText : String := "\n".intercalate [
  "Usage: [OPTIONS] [CATALOG]",
  "",
  "Call API operations with human-friendly commands.",
  "",
  "  -u, --base-url TEXT         Base URL of the API.",
  "  -s, --script PATH           Script file to run.",
  "  -q, --quit                  Don't run the interactive shell (run script and quit).",
  "  -v, --verbose               Verbose output and debug logging.",
  "  -p, --print                 Print responses when running a script.",
  "  -l, --print-length INTEGER  Maximum response text length printed in interactive mode.",
  "  --help                      Show this message and exit.",
  ""]

/-- The local paths that the arguments of a line name. -/
def mentioned (line : String) : List DiskPath :=
  match Command.read line with
  | .error _ => []
  | .ok c => c.arguments.filterMap fun a => (Locator.localPath a.value).toOption.join

/-- The variables of the environment. -/
def readEnvironment : IO Environment :=
  environmentNames.filterMapM fun name => return (← IO.getEnv name).map (name, ·)

/-- The disk with the file that a path leads to, if it can be read. -/
def fetch (d : Disk) (p : DiskPath) : IO Disk := do
  try
    let content ← IO.FS.readBinFile p.text
    return d.install (d.absolute p) (.file content.toList)
  catch _ => return d

/-- Everything that is typed. -/
def readInput (input : IO.FS.Stream) : IO String := do
  let mut read := ""
  repeat
    let line ← input.getLine
    if line.isEmpty then break
    read := read ++ line
  return read

/-- Writes the files that were not there before. -/
def store (before after : Disk) : IO Unit := do
  for (names, entry) in after.entries do
    let path := DiskPath.text ⟨1, names⟩
    match entry with
    | .directory => if before.entry? names != some entry then IO.FS.createDirAll path
    | .file content =>
      if before.entry? names != some entry then IO.FS.writeBinFile path ⟨content.toArray⟩

/-- The machine as an invocation with these arguments finds it. -/
def find (arguments : List String) : IO Machine := do
  let environment ← readEnvironment
  let home := (environment.lookup "HOME").getD "/"
  let here := (DiskPath.ofString ((← IO.getEnv "PWD").getD "/")).names
  let empty : Disk := (⟨[], here, home, [], 0⟩ : Disk).install here .directory
  let userFile := match userSettingsDir .other environment empty with
    | .ok directory => settingsFile directory
    | .error _ => Settings.projectFile
  let script := match Options.read arguments with
    | some (.run o) => (o.script.map DiskPath.ofString).toList
    | _ => []
  let disk ← ([Settings.projectFile, userFile] ++ script).foldlM fetch empty
  let input ← readInput (← IO.getStdin)
  let texts := script.filterMap fun p => ((disk.read p).toOption.map World.fileText).bind (·.toOption)
  let lines := typedLines input ++ texts.flatMap Shell.scriptLines
  let disk ← (lines.flatMap mentioned).foldlM fetch disk
  return ⟨environment, userFile, disk, [], Web.unreachable, input, "0"⟩

/-- Runs an invocation and gives its exit code. -/
def perform (arguments : List String) : IO UInt32 := do
  let machine ← find arguments
  let ending := machine.invoke helpText arguments
  IO.print ending.screen
  if let some breakdown := ending.breakdown then IO.eprintln breakdown.message
  store machine.disk ending.disk
  return ending.exitCode.toUInt32

end OperatorConsole.Machine

def main (arguments : List String) : IO UInt32 := OperatorConsole.Machine.perform arguments
