import OperatorConsole.Proofs.Disk.Place
import OperatorConsole.Proofs.Settings.Setting

/-!
Where settings come from. There are three sources, each of them assignments in order: the environment,
the settings file of the user and that of the current directory. A setting is what the first source
that has its name says of it last, names without regard to letter case. There are settings exactly if
the files are read and every setting has a value, and all that is wrong is reported together.
-/
namespace OperatorConsole

namespace Settings

open Assignments Setting

variable {environment : Environment} {d : Disk} {userFile : DiskPath} {s : Settings}
  {sources : List (List Assignment)}

/-- The environment as a source: all of its names have values. -/
def fromEnvironment (environment : Environment) : List Assignment :=
  environment.map fun (name, value) => (name, some value)

theorem said_fromEnvironment (environment : Environment) (name : String) :
    said (fromEnvironment environment) name = none ∨
      ∃ value, said (fromEnvironment environment) name = some (some value) := by
  rw [said]
  cases h : ((fromEnvironment environment).filter
      fun a => String.ofList (Text.lower a.1.toList) == name).getLast? with
  | none => exact .inl rfl
  | some a =>
    have ha := (List.mem_filter.1 (List.mem_of_getLast? h)).1
    rw [fromEnvironment, List.mem_map] at ha
    obtain ⟨⟨n, value⟩, -, rfl⟩ := ha
    exact .inr ⟨value, rfl⟩

/-- A setting is what the first source says: the environment, the file of the user, the file of the
current directory. -/
theorem given_eq (environment : Environment) (user project : List Assignment) (name : String) :
    given (foldNames (fromEnvironment environment)) (overlay (foldNames user) (foldNames project)) name
      = firstSaid [fromEnvironment environment, user, project] (namespacePart ++ name) := by
  rw [given, lookup_foldNames, lookup_overlay_foldNames, firstSaid]
  rcases said_fromEnvironment environment (namespacePart ++ name) with h | ⟨value, h⟩
  · cases hu : said user (namespacePart ++ name) <;>
      cases hp : said project (namespacePart ++ name) <;> simp [h, hu, hp]
  · simp [h]

/-! ### Files -/

/-- The sources of settings, the first one first. -/
def sourcesOf (environment : Environment) (d : Disk) (userFile : DiskPath) :
    Except SettingsFault (List (List Assignment)) := do
  let project ← fileSays environment d projectFile
  let user ← fileSays environment d userFile
  return [fromEnvironment environment, user, project]

theorem assignmentsOf_eq (environment : Environment) (d : Disk) (path : DiskPath) :
    assignmentsOf environment d path = fileSays environment d path >>= fun s => .ok (foldNames s) := by
  rw [assignmentsOf]
  cases fileSays environment d path <;> rfl

/-- A file is not read because of the disk or its encoding. -/
theorem fileSays_ne_invalid {environment : Environment} {d : Disk} {path : DiskPath}
    {defects : List Defect} : fileSays environment d path ≠ .error (.invalid defects) := by
  rw [fileSays]
  refine andThen_ne_error (mapError_ne_error nofun) fun path => ?_
  refine andThen_ne_error (mapError_ne_error nofun) fun isFile => ?_
  cases isFile with
  | false => exact nofun
  | true =>
    refine andThen_ne_error (mapError_ne_error nofun) fun content => ?_
    refine andThen_ne_error (mapError_ne_error nofun) fun cs => ?_
    exact nofun

/-! ### Loading -/

/-- The directory that stands in for the download directory; it is looked for only if it is needed. -/
def homeFor (d : Disk) (sources : List (List Assignment)) : Except SettingsFault DiskPath :=
  match text? sources .downloadDir with
  | some _ => .ok ⟨0, []⟩
  | none => d.homeDirectory.mapError .disk

theorem homeDirectory_of_homeFor {home : DiskPath} (h : homeFor d sources = .ok home)
    (ht : text? sources .downloadDir = none) : d.homeDirectory = .ok home := by
  rw [homeFor, ht] at h
  exact mapError_eq_ok_iff.1 h

theorem homeFor_ne_invalid {ds : List Defect} : homeFor d sources ≠ .error (.invalid ds) := by
  rw [homeFor]
  cases text? sources .downloadDir with
  | some text => exact nofun
  | none => exact mapError_ne_error nofun

theorem exists_homeFor_iff : (∃ home, homeFor d sources = .ok home) ↔
    ∃ value, Setting.Takes d sources .downloadDir value := by
  unfold Setting.Takes
  rw [homeFor]
  cases text? sources .downloadDir with
  | some text => exact ⟨fun _ => ⟨_, rfl⟩, fun _ => ⟨_, rfl⟩⟩
  | none => simp only [mapError_eq_ok_iff, standIn]

/-- Settings from their sources. -/
theorem load_eq : load environment d userFile =
    sourcesOf environment d userFile >>= fun sources => homeFor d sources >>= fun home =>
      (ofLookup (fun name => Assignments.firstSaid sources (namespacePart ++ name)) home).mapError
        .invalid := by
  rw [load, sourcesOf, assignmentsOf_eq, assignmentsOf_eq]
  cases fileSays environment d projectFile with
  | error fault => rfl
  | ok project =>
    cases fileSays environment d userFile with
    | error fault => rfl
    | ok user =>
      have hown : (environment.map fun (name, value) => (name, some value)) =
          fromEnvironment environment := rfl
      have hname : Assignments.firstSaid [fromEnvironment environment, user, project]
          (namespacePart ++ "download_dir") =
          text? [fromEnvironment environment, user, project] .downloadDir := rfl
      have hpure : (pure [fromEnvironment environment, user, project] :
          Except SettingsFault (List (List Assignment))) = .ok _ := rfl
      simp only [ok_bind, hown, funext (given_eq environment user project), hname, hpure, homeFor]
      cases text? [fromEnvironment environment, user, project] .downloadDir <;> rfl

theorem sourcesOf_ne_invalid {ds : List Defect} :
    sourcesOf environment d userFile ≠ .error (.invalid ds) := by
  rw [sourcesOf]
  refine andThen_ne_error fileSays_ne_invalid fun project => ?_
  refine andThen_ne_error fileSays_ne_invalid fun user => ?_
  exact nofun

theorem load_eq_ok_iff : load environment d userFile = .ok s ↔
    ∃ sources, sourcesOf environment d userFile = .ok sources ∧
      ∀ x : Setting, x.Takes d sources (x.of s) := by
  rw [load_eq, andThen_eq_ok_iff]
  refine exists_congr fun sources => and_congr_right fun _ => ?_
  rw [andThen_eq_ok_iff]
  constructor
  · rintro ⟨home, hh, h⟩
    exact (ofLookup_eq_ok_iff (homeDirectory_of_homeFor hh)).1 (mapError_eq_ok_iff.1 h)
  · intro h
    obtain ⟨home, hh⟩ := exists_homeFor_iff.2 ⟨_, h .downloadDir⟩
    exact ⟨home, hh, mapError_eq_ok_iff.2 ((ofLookup_eq_ok_iff (homeDirectory_of_homeFor hh)).2 h)⟩

theorem load_eq_invalid_iff {ds : List Defect} : load environment d userFile = .error (.invalid ds) ↔
    ∃ sources, sourcesOf environment d userFile = .ok sources ∧
      (∃ value, Setting.Takes d sources .downloadDir value) ∧ (∃ x : Setting, x.IsWrong sources) ∧
      ds = Setting.all.flatMap (·.defects sources) := by
  rw [load_eq, andThen_eq_error_iff]
  refine (or_iff_right sourcesOf_ne_invalid).trans (exists_congr fun sources => and_congr_right fun _ => ?_)
  rw [andThen_eq_error_iff, ← exists_homeFor_iff]
  refine (or_iff_right homeFor_ne_invalid).trans ?_
  constructor
  · rintro ⟨home, hh, h⟩
    obtain ⟨es, he, hes⟩ := mapError_eq_error_iff.1 h
    cases hes
    exact ⟨⟨home, hh⟩, ofLookup_eq_error_iff.1 he⟩
  · rintro ⟨⟨home, hh⟩, h⟩
    exact ⟨home, hh, mapError_eq_error_iff.2 ⟨ds, ofLookup_eq_error_iff.2 h, rfl⟩⟩

/-- A setting has no value exactly if its text is wrong or nothing stands in for a text. -/
theorem not_exists_takes_iff {x : Setting} : (¬ ∃ value, x.Takes d sources value) ↔
    x.IsWrong sources ∨ x.text? sources = none ∧ ∃ fault, x.standIn d = .error fault := by
  unfold Setting.Takes IsWrong
  cases ht : x.text? sources with
  | some text => cases hr : x.read text <;> simp [hr]
  | none => cases hs : x.standIn d <;> simp

/-- Only the home directory may be missing where something has to stand in. -/
theorem exists_not_takes_iff : (∃ x : Setting, ¬ ∃ value, x.Takes d sources value) ↔
    (∃ x : Setting, x.IsWrong sources) ∨
      text? sources .downloadDir = none ∧ ∃ fault, d.homeDirectory = .error fault := by
  simp only [not_exists_takes_iff]
  constructor
  · rintro ⟨x, hx | ⟨ht, fault, hs⟩⟩
    · exact .inl ⟨x, hx⟩
    · cases x with
      | downloadDir => exact .inr ⟨ht, fault, hs⟩
      | timeout | agent | shown | logLevel => cases hs
  · rintro (⟨x, hx⟩ | h)
    · exact ⟨x, .inl hx⟩
    · exact ⟨.downloadDir, .inr h⟩

theorem exists_load_eq_error_iff : (∃ fault, load environment d userFile = .error fault) ↔
    (∃ fault, sourcesOf environment d userFile = .error fault) ∨
      ∃ sources, sourcesOf environment d userFile = .ok sources ∧
        ∃ x : Setting, ¬ ∃ value, x.Takes d sources value := by
  have hfails : (∃ fault, load environment d userFile = .error fault) ↔
      ¬ ∃ s, load environment d userFile = .ok s := by
    cases load environment d userFile <;> simp
  simp only [hfails, load_eq_ok_iff]
  cases sourcesOf environment d userFile with
  | error fault => simp
  | ok sources =>
    simp only [Except.ok.injEq, exists_eq_left', reduceCtorEq, exists_false, false_or]
    rw [← not_forall]
    refine not_congr ⟨?_, ?_⟩
    · rintro ⟨s, hs⟩ x
      exact ⟨x.of s, hs x⟩
    · intro h
      choose value hvalue using h
      refine ⟨gather value, fun x => ?_⟩
      rw [of_gather]
      exact hvalue x

/-- Settings are taken from the environment, the file of the user and the file of the current
directory, from the first of them that has the name. There are none exactly if a file cannot be read,
a text that was taken so is no value of its setting, or there is no home directory to stand in. What is
reported as wrong are all the texts that are wrong, each under the name of its setting. -/
theorem load_exact (environment : Environment) (d : Disk) (userFile : DiskPath) :
    (∀ s, load environment d userFile = .ok s ↔
      ∃ sources, sourcesOf environment d userFile = .ok sources ∧
        ∀ x : Setting, x.Takes d sources (x.of s)) ∧
    ((∃ fault, load environment d userFile = .error fault) ↔
      (∃ fault, sourcesOf environment d userFile = .error fault) ∨
      ∃ sources, sourcesOf environment d userFile = .ok sources ∧
        ((∃ x : Setting, x.IsWrong sources) ∨
          text? sources .downloadDir = none ∧ ∃ fault, d.homeDirectory = .error fault)) ∧
    ∀ ds, load environment d userFile = .error (.invalid ds) ↔
      ∃ sources, sourcesOf environment d userFile = .ok sources ∧
        (∃ value, Setting.Takes d sources .downloadDir value) ∧ (∃ x : Setting, x.IsWrong sources) ∧
        ds = Setting.all.flatMap (·.defects sources) := by
  refine ⟨fun s => load_eq_ok_iff, ?_, fun ds => load_eq_invalid_iff⟩
  rw [exists_load_eq_error_iff]
  simp only [exists_not_takes_iff]

/-! ### The two files -/

theorem fileSays_of_file {path : DiskPath} {place : List String} {content : Bytes} {cs : List Char}
    (hpath : d.expandHome path = .ok path) (hplace : d.locate path = .ok place)
    (hfile : d.entry? place = some (.file content)) (hcs : Utf8.decode content = .ok cs) :
    fileSays environment d path =
      .ok (Assignments.resolve environment (Assignments.read (Text.joinLineEnds cs))) := by
  have hfind : d.find path = .ok (.file content) := by
    rw [Disk.find, hplace, ok_bind, hfile]
    rfl
  have hisFile : d.isFile path = .ok true := by
    unfold Disk.isFile Disk.leadsTo
    rw [hfind]
  have hread : d.read path = .ok content := by
    rw [Disk.read, hfind]
    rfl
  simp only [fileSays, hpath, hisFile, hread, hcs, mapError_ok, ok_bind]
  rfl

theorem takes_of_none {x : Setting} {value : x.Value} (ht : x.text? sources = none)
    (hs : x.standIn d = .ok value) : x.Takes d sources value := by
  rw [Setting.Takes, ht]
  exact hs

theorem takes_iff_of_some {x : Setting} {value : x.Value} (text : String)
    (ht : x.text? sources = some text) : x.Takes d sources value ↔ x.read text = .ok value := by
  rw [Setting.Takes, ht]

/-- A disk with settings files of the user and of the current directory, each with a name to send. -/
def twoFiles : Disk where
  entries := [
    (["home"], .directory),
    (["home", ".env"], .file (Utf8.encode "APICONSOLE_USER_AGENT=user\n".toList)),
    (["work"], .directory),
    (["work", ".env"], .file (Utf8.encode "APICONSOLE_USER_AGENT=project\n".toList))]
  here := ["work"]
  home := "/home"
  homes := []
  drawn := 0

/-- The settings file of the user on that disk. -/
def twoFilesUser : DiskPath := settingsFile ⟨1, ["home"]⟩

theorem twoFiles_project :
    fileSays [] twoFiles projectFile = .ok [("APICONSOLE_USER_AGENT", some "project")] := by
  have hplace : twoFiles.locate projectFile = .ok ["work", ".env"] :=
    Disk.locate_eq_ok_iff.2 ⟨by decide +kernel, by decide +kernel, by rfl⟩
  have hcs : Utf8.decode (Utf8.encode "APICONSOLE_USER_AGENT=project\n".toList) =
      .ok "APICONSOLE_USER_AGENT=project\n".toList := by decide +kernel
  rw [fileSays_of_file (by rfl) hplace rfl hcs]
  decide +kernel

theorem twoFiles_user :
    fileSays [] twoFiles twoFilesUser = .ok [("APICONSOLE_USER_AGENT", some "user")] := by
  have hplace : twoFiles.locate twoFilesUser = .ok ["home", ".env"] :=
    Disk.locate_eq_ok_iff.2 ⟨by decide +kernel, by decide +kernel, by rfl⟩
  have hcs : Utf8.decode (Utf8.encode "APICONSOLE_USER_AGENT=user\n".toList) =
      .ok "APICONSOLE_USER_AGENT=user\n".toList := by decide +kernel
  rw [fileSays_of_file (by rfl) hplace rfl hcs]
  decide +kernel

/-- Of the two names the one in the file of the user is taken. -/
theorem load_twoFiles : load [] twoFiles twoFilesUser =
    .ok ⟨Binary.ofInt binary64 100, "user", 1200, DiskPath.ofString "/home", "WARNING"⟩ := by
  have hsources : sourcesOf [] twoFiles twoFilesUser =
      .ok [[], [("APICONSOLE_USER_AGENT", some "user")], [("APICONSOLE_USER_AGENT", some "project")]] := by
    rw [sourcesOf, twoFiles_project, twoFiles_user]
    rfl
  refine load_eq_ok_iff.2 ⟨_, hsources, fun x => ?_⟩
  cases x with
  | timeout => exact takes_of_none (by decide +kernel) rfl
  | agent => exact (takes_iff_of_some "user" (by decide +kernel)).2 rfl
  | shown => exact takes_of_none (by decide +kernel) rfl
  | downloadDir => exact takes_of_none (by decide +kernel) (by decide +kernel)
  | logLevel => exact takes_of_none (by decide +kernel) rfl

/-- The file of the current directory does not come before that of the user. -/
theorem not_project_before_user :
    ¬ ∀ (environment : Environment) (d : Disk) (userFile : DiskPath) (project user : List Assignment)
        (s : Settings),
      fileSays environment d projectFile = .ok project → fileSays environment d userFile = .ok user →
      load environment d userFile = .ok s →
      ∀ x : Setting, x.Takes d [fromEnvironment environment, project, user] (x.of s) := by
  intro h
  have hx := h _ _ _ _ _ _ twoFiles_project twoFiles_user load_twoFiles .agent
  rw [takes_iff_of_some "project" (by decide +kernel)] at hx
  exact absurd hx (by decide)

end Settings

end OperatorConsole
