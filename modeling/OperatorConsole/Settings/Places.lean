import OperatorConsole.Disk.Store

/-!
Where the settings of a user are kept: in a directory of their own, below the place that the
platform has for settings.
-/
namespace OperatorConsole

/-- Variables of the environment. -/
abbrev Environment := List (String × String)

/-- Platforms that differ in where settings are kept. -/
inductive Platform where
  | windows
  | mac
  | other
  deriving DecidableEq, Repr

/-- The platform of a name. -/
def Platform.ofName (name : String) : Platform :=
  if name.startsWith "win" then .windows else if name == "darwin" then .mac else .other

/-- The name of the directory of settings. -/
def settingsFolder : String := "apiconsole"

/-- The home directory of the user. -/
def Disk.homeDirectory (d : Disk) : Except DiskFault DiskPath := d.expandHome ⟨0, ["~"]⟩

/-- The directory of the settings of the user. -/
def userSettingsDir (platform : Platform) (environment : Environment) (d : Disk) :
    Except DiskFault DiskPath := do
  let below (base : DiskPath) (names : List String) : DiskPath := { base with names := base.names ++ names }
  match platform with
  | .windows =>
    let home ← d.homeDirectory
    let base := ((environment.lookup "APPDATA").map DiskPath.ofString).getD home
    return below base [settingsFolder]
  | .mac => return below (← d.homeDirectory) ["Library", "Application Support", settingsFolder]
  | .other =>
    match environment.lookup "XDG_CONFIG_HOME" with
    | none | some "" => return below (← d.homeDirectory) [".config", settingsFolder]
    | some base => return below (DiskPath.ofString base) [settingsFolder]

/-- The file of settings in a directory. -/
def settingsFile (directory : DiskPath) : DiskPath :=
  { directory with names := directory.names ++ [".env"] }

end OperatorConsole
