import OperatorConsole.Disk.Path
import OperatorConsole.Text.Percent
import OperatorConsole.Text.Quoted

/-!
The local disk. Every file and directory is known by the names that lead to it from the root; there
are no links. A path is walked from the root or from the current directory, and every name before
the last has to be a directory. Every file and directory may be read and written, and no disk is full:
what can be found is read, and what can be opened is written as a whole.
-/
namespace OperatorConsole

/-- What is found on the disk. -/
inductive Entry where
  | file (content : Bytes)
  | directory
  deriving DecidableEq, Repr

/-- The disk as a session sees it. -/
structure Disk where
  /-- Files and directories by the names from the root; the root itself is not listed. -/
  entries : List (List String × Entry)
  /-- The names of the current directory. -/
  here : List String
  /-- The home directory of the user. -/
  home : String
  /-- The home directories of known users. -/
  homes : List (String × String)
  /-- How many names of new files were drawn. -/
  drawn : Nat

/-- Why something on the disk cannot be used; the path is as it was given. -/
inductive DiskFault where
  | missing (path : String)
  | taken (path : String)
  | notDirectory (path : String)
  | isDirectory (path : String)
  | nameTooLong (path : String)
  | nul
  | noHome
  deriving DecidableEq, Repr

/-- The report on something that cannot be used. -/
def DiskFault.message : DiskFault → String
  | .missing path => s!"[Errno 2] No such file or directory: {quoted path}"
  | .taken path => s!"[Errno 17] File exists: {quoted path}"
  | .notDirectory path => s!"[Errno 20] Not a directory: {quoted path}"
  | .isDirectory path => s!"[Errno 21] Is a directory: {quoted path}"
  | .nameTooLong path => s!"[Errno 36] File name too long: {quoted path}"
  | .nul => "embedded null byte"
  | .noHome => "Could not determine home directory."

namespace Disk

/-! ### Finding -/

/-- What the names lead to. -/
def entry? (d : Disk) (names : List String) : Option Entry :=
  if names.isEmpty then some .directory else d.entries.lookup names

/-- The most bytes of a name. -/
def nameLimit : Nat := 255

/-- The most bytes of a path. -/
def pathLimit : Nat := 4095

/-- Walks names from a directory; what the last one leads to need not exist. -/
def walk (d : Disk) (path : String) (place : List String) : List String → Except DiskFault (List String)
  | [] => .ok place
  | name :: rest =>
    match d.entry? place with
    | none => .error (.missing path)
    | some (.file _) => .error (.notDirectory path)
    | some .directory =>
      if nameLimit < name.utf8ByteSize then .error (.nameTooLong path)
      else if name == ".." then walk d path place.dropLast rest
      else walk d path (place ++ [name]) rest

/-- The names that a path leads to from the root. -/
def locate (d : Disk) (p : DiskPath) : Except DiskFault (List String) :=
  if p.text.contains (Char.ofNat 0) then .error .nul
  else if pathLimit < p.text.utf8ByteSize then .error (.nameTooLong p.text)
  else d.walk p.text (if p.isAbsolute then [] else d.here) p.names

/-- What a path leads to. -/
def find (d : Disk) (p : DiskPath) : Except DiskFault Entry := do
  match d.entry? (← d.locate p) with
  | some entry => return entry
  | none => throw (.missing p.text)

/-- The path leads to an entry of a kind; only a name that is too long is reported. -/
def leadsTo (d : Disk) (p : DiskPath) (kind : Entry → Bool) : Except DiskFault Bool :=
  match d.find p with
  | .ok entry => .ok (kind entry)
  | .error (.nameTooLong path) => .error (.nameTooLong path)
  | .error _ => .ok false

/-- The path leads to a file. -/
def isFile (d : Disk) (p : DiskPath) : Except DiskFault Bool :=
  d.leadsTo p fun | .file _ => true | .directory => false

/-- The path leads to a directory. -/
def isDirectory (d : Disk) (p : DiskPath) : Bool :=
  match d.find p with
  | .ok .directory => true
  | _ => false

/-! ### Reading and writing -/

/-- The content of the file that a path leads to. -/
def read (d : Disk) (p : DiskPath) : Except DiskFault Bytes := do
  match ← d.find p with
  | .file content => return content
  | .directory => throw (.isDirectory p.text)

/-- Puts an entry in its place, or adds it. -/
def put (d : Disk) (names : List String) (entry : Entry) : Disk :=
  if d.entries.any (·.1 == names) then
    { d with entries := d.entries.map fun e => if e.1 == names then (names, entry) else e }
  else { d with entries := d.entries ++ [(names, entry)] }

/-- Puts an entry where names lead to from the root, with the directories above it that are missing. -/
def install (d : Disk) (names : List String) (entry : Entry) : Disk :=
  let above := (List.range (names.length - 1)).map fun n => names.take (n + 1)
  let make (d : Disk) (directory : List String) : Disk :=
    if (d.entry? directory).isSome then d else d.put directory .directory
  (above.foldl make d).put names entry

/-- Writes a file where a path leads to, over a file that is there. A file that is opened is written to its
end; a disk on which the space runs out before is left out. -/
def write (d : Disk) (p : DiskPath) (content : Bytes) : Except DiskFault Disk := do
  let names ← d.locate p
  match d.entry? names with
  | some .directory => throw (.isDirectory p.text)
  | _ => return d.put names (.file content)

/-- Makes one directory. -/
def makeDirectory (d : Disk) (p : DiskPath) : Except DiskFault Disk := do
  let names ← d.locate p
  match d.entry? names with
  | some _ => throw (.taken p.text)
  | none => return d.put names .directory

/-- Makes one directory, unless it is there already: the disk after it and what went wrong. -/
def ensureDirectory (d : Disk) (p : DiskPath) : Disk × Option DiskFault :=
  match d.makeDirectory p with
  | .ok made => (made, none)
  | .error (.missing path) => (d, some (.missing path))
  | .error fault => (d, if d.isDirectory p then none else some fault)

/-- Makes a directory and those above it that are missing, `depth` of them at most: the disk after it
and what went wrong. -/
def makeAll (d : Disk) (p : DiskPath) : Nat → Disk × Option DiskFault
  | 0 => d.ensureDirectory p
  | depth + 1 =>
    match d.ensureDirectory p with
    | (d, some (.missing _)) =>
      match makeAll d p.parent depth with
      | (d, none) => d.ensureDirectory p
      | failed => failed
    | done => done

/-- Makes sure that a path leads to a directory. -/
def makeDirectories (d : Disk) (p : DiskPath) : Disk × Option DiskFault := d.makeAll p p.names.length

/-! ### Homes and addresses -/

/-- A home directory without slashes at its end. -/
def homeText (home : String) : List Char :=
  match (home.toList.reverse.dropWhile (· == '/')).reverse with
  | [] => ['/']
  | cs => cs

/-- A path whose first name stands for a home directory, with that directory in its place. -/
def expandHome (d : Disk) (p : DiskPath) : Except DiskFault DiskPath :=
  match p.slashes, p.names with
  | 0, first :: rest =>
    match first.toList with
    | '~' :: user =>
      let home := if user.isEmpty then some d.home else d.homes.lookup (String.ofList user)
      match home.map homeText with
      | none | some ('~' :: _) => .error .noHome
      | some home =>
        let base := DiskPath.parse home
        .ok { base with names := base.names ++ rest }
    | _ => .ok p
  | _, _ => .ok p

/-- The names from the root, two points taken away with the name before them. -/
def absolute (d : Disk) (p : DiskPath) : List String :=
  let step (names : List String) (name : String) : List String :=
    if name == ".." then names.dropLast else names ++ [name]
  p.names.foldl step (if p.isAbsolute then [] else d.here)

/-- The address of a file. -/
def fileAddress (d : Disk) (p : DiskPath) : String :=
  "file://" ++ String.ofList (Text.Percent.encode (DiskPath.text ⟨1, d.absolute p⟩).toList)

/-- Draws the name of a new file: 32 hexadecimal digits that were not drawn before. -/
def drawName (d : Disk) : String × Disk :=
  let n := d.drawn + 1
  (String.ofList (Text.Quoted.hex 32 n), { d with drawn := n })

end Disk

end OperatorConsole
