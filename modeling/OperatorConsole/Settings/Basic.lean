import OperatorConsole.Argument.Document
import OperatorConsole.Content
import OperatorConsole.Settings.Assignments
import OperatorConsole.Settings.Places

/-!
Settings. Every setting is looked for in the environment, then in the file of the user, then in the
file of the current directory; names are compared without regard to letter case. A setting that is
nowhere has its default. All settings that are not valid are reported together.
-/
namespace OperatorConsole

/-- What the program is set to. -/
structure Settings where
  /-- Seconds until a request is given up. -/
  timeout : Binary
  /-- The name under which requests are sent. -/
  agent : String
  /-- How much of a text is shown; a number below zero is no limit. -/
  shown : Int
  downloadDir : DiskPath
  logLevel : String

/-- Why there are no settings. -/
inductive SettingsFault where
  | invalid (defects : List Defect)
  | encoding (fault : Utf8.Fault)
  | disk (fault : DiskFault)
  deriving DecidableEq, Repr

/-- A number of characters as a limit, if it is one. -/
def limitOf (n : Int) : Option Nat := if n < 0 then none else some n.toNat

namespace Settings

/-- What stands in front of the name of every setting. -/
def namespacePart : String := "apiconsole_"

/-! ### Values -/

/-- The number is more than zero. -/
def isPositive : Binary → Bool
  | .finite negative significand _ => !negative && significand != 0
  | .infinite negative => !negative
  | .nan => false

/-- A text that is no value of a setting, by what is wrong with it. -/
def wrong (name : String) : Except (List Defect) α := .error [⟨[], name⟩]

/-- A number of seconds. -/
def readTimeout (s : String) : Except (List Defect) Binary :=
  match Numeral.readLooseReal s.toList with
  | some x => if isPositive x then .ok x else wrong "greater_than"
  | none => wrong "float_parsing"

/-- A number of characters; one below zero means that all are shown. -/
def readShown (s : String) : Except (List Defect) Int :=
  match Numeral.readLooseWhole s.toList with
  | .ok n => if -1 ≤ n then .ok n else wrong "greater_than_equal"
  | .error .malformed => wrong "int_parsing"
  | .error (.tooLong _) => wrong "int_parsing_size"

/-- A text that is not empty. -/
def readName (s : String) : Except (List Defect) String :=
  if s.isEmpty then wrong "string_too_short" else .ok s

/-- Both results, or the defects of both. -/
def together (f : α → β → γ) :
    Except (List Defect) α → Except (List Defect) β → Except (List Defect) γ
  | .ok a, .ok b => .ok (f a b)
  | .ok _, .error ds => .error ds
  | .error ds, .ok _ => .error ds
  | .error ds, .error es => .error (ds ++ es)

/-- The settings that a look-up by name gives, with the download directory that stands in. -/
def ofLookup (find : String → Option String) (home : DiskPath) : Except (List Defect) Settings :=
  let setting {α : Type} (name : String) (read : String → Except (List Defect) α) (standIn : α) :
      Except (List Defect) α :=
    match find name with
    | some s => (read s).mapError fun ds => ds.map fun d => { d with place := .name name :: d.place }
    | none => .ok standIn
  let directory := ((find "download_dir").map DiskPath.ofString).getD home
  together (fun (timeout, agent) (shown, logLevel) => ⟨timeout, agent, shown, directory, logLevel⟩)
    (together Prod.mk
      (setting "http_timeout_seconds" readTimeout (Binary.ofInt binary64 100))
      (setting "user_agent" readName "apiconsole/0.1"))
    (together Prod.mk
      (setting "print_max_chars" readShown 1200)
      (setting "log_level" readName "WARNING"))

/-! ### Sources -/

/-- Assignments under names in small letters; of several with one name the last one counts. -/
def foldNames (assignments : List Assignment) : List Assignment :=
  assignments.foldl
    (fun known (name, value) => Assignments.put (String.ofList (Text.lower name.toList)) value known) []

/-- What a settings file says, in order; a file that is not there says nothing. -/
def fileSays (environment : Environment) (d : Disk) (path : DiskPath) :
    Except SettingsFault (List Assignment) := do
  let path ← (d.expandHome path).mapError .disk
  if !(← (d.isFile path).mapError .disk) then return []
  let content ← (d.read path).mapError .disk
  let cs ← (Utf8.decode content).mapError .encoding
  return Assignments.resolve environment (Assignments.read (Text.joinLineEnds cs))

/-- The assignments of a settings file under names in small letters. -/
def assignmentsOf (environment : Environment) (d : Disk) (path : DiskPath) :
    Except SettingsFault (List Assignment) :=
  (fileSays environment d path).map foldNames

/-- The settings file of the current directory. -/
def projectFile : DiskPath := ⟨0, [".env"]⟩

/-- One source over another: its names count, even those that it gives nothing. -/
def overlay (a b : List Assignment) : List Assignment :=
  a.foldl (fun known (name, value) => Assignments.put name value known) b

/-- What a setting is given: by the environment, or else by the files. -/
def given (environment files : List Assignment) (name : String) : Option String :=
  let full := namespacePart ++ name
  match environment.lookup full with
  | some (some value) => some value
  | _ => (files.lookup full).join

/-- The settings of an environment, a disk and a settings file of the user. -/
def load (environment : Environment) (d : Disk) (userFile : DiskPath) :
    Except SettingsFault Settings := do
  let own := foldNames (environment.map fun (name, value) => (name, some value))
  let project ← assignmentsOf environment d projectFile
  let user ← assignmentsOf environment d userFile
  let find := given own (overlay user project)
  match find "download_dir" with
  | some _ => (ofLookup find ⟨0, []⟩).mapError .invalid
  | none =>
    let home ← d.homeDirectory.mapError .disk
    (ofLookup find home).mapError .invalid

end Settings

end OperatorConsole
