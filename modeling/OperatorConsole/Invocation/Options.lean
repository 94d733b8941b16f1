import OperatorConsole.Number.Loose
import OperatorConsole.Text.Lines

/-!
The arguments of an invocation. Options stand before, between and after the other arguments; short
ones may be run together, and a value may be attached to its option. After two dashes no argument is
an option. An invocation that asks for help is nothing else.
-/
namespace OperatorConsole

/-- The options. -/
inductive OptionName where
  | help
  | quit
  | verbose
  | printing
  | baseUrl
  | script
  | printLength
  deriving DecidableEq, Repr

/-- What an invocation asks for. -/
structure Options where
  catalog : Option String
  baseUrl : Option String
  script : Option String
  /-- There is no operator. -/
  quit : Bool
  verbose : Bool
  /-- What a script prints is shown. -/
  printing : Bool
  /-- How much of a text the operator sees; a number below zero is no limit. -/
  printLength : Option Int
  deriving DecidableEq, Repr

/-- What an invocation comes to before it runs. -/
inductive Wish where
  | help
  | run (options : Options)
  deriving DecidableEq, Repr

/-- An option as it is given, with its value if it takes one. -/
abbrev Given := OptionName × String

namespace OptionName

/-- The option is given with a value. -/
def takesValue : OptionName → Bool
  | .baseUrl | .script | .printLength => true
  | _ => false

/-- The option of a long name. -/
def ofLong? : String → Option OptionName
  | "--help" => some .help
  | "--quit" => some .quit
  | "--verbose" => some .verbose
  | "--print" => some .printing
  | "--base-url" => some .baseUrl
  | "--script" => some .script
  | "--print-length" => some .printLength
  | _ => none

/-- The option of a short name. -/
def ofShort? : Char → Option OptionName
  | 'q' => some .quit
  | 'v' => some .verbose
  | 'p' => some .printing
  | 'u' => some .baseUrl
  | 's' => some .script
  | 'l' => some .printLength
  | _ => none

end OptionName

namespace Options

/-- The options of one argument: those that are complete, and perhaps one that waits for its value. -/
structure Reading where
  complete : List Given
  waiting : Option OptionName

/-- Short options run together; what follows one that takes a value is its value. -/
def readShort : List Char → Option Reading
  | [] => some ⟨[], none⟩
  | c :: rest =>
    match OptionName.ofShort? c with
    | none => none
    | some name =>
      if name.takesValue then
        if rest.isEmpty then some ⟨[], some name⟩ else some ⟨[(name, String.ofList rest)], none⟩
      else (readShort rest).map fun r => { r with complete := (name, "") :: r.complete }

/-- The options of an argument that begins with a dash; none if it is no option or is misused. -/
def readOption (argument : String) : Option Reading :=
  let (name, value) := Text.cut '=' argument.toList
  match OptionName.ofLong? (String.ofList name) with
  | some name =>
    match name.takesValue, value with
    | true, some value => some ⟨[(name, String.ofList value)], none⟩
    | true, none => some ⟨[], some name⟩
    | false, some _ => none
    | false, none => some ⟨[(name, "")], none⟩
  | none => if argument.startsWith "--" then none else readShort (argument.toList.drop 1)

/-- Options and other arguments in order; none if an option is misused. -/
def split : List String → Option (List Given × List String)
  | [] => some ([], [])
  | argument :: rest =>
    if argument == "--" then some ([], rest)
    else if argument.startsWith "-" && argument != "-" then
      match readOption argument with
      | none => none
      | some ⟨complete, none⟩ => (split rest).map fun (given, others) => (complete ++ given, others)
      | some ⟨complete, some name⟩ =>
        match rest with
        | [] => none
        | value :: rest =>
          (split rest).map fun (given, others) => (complete ++ (name, value) :: given, others)
    else (split rest).map fun (given, others) => (given, argument :: others)

/-- The value of an option; of several the last one counts. -/
def value? (given : List Given) (name : OptionName) : Option String := given.reverse.lookup name

/-- The value of an option as a whole number. -/
def number? (given : List Given) (name : OptionName) : Except Unit (Option Int) :=
  match value? given name with
  | none => .ok none
  | some s =>
    match Numeral.readLooseWhole s.toList with
    | .ok n => .ok (some n)
    | .error _ => .error ()

/-- What the arguments of an invocation ask for; none if they are misused. -/
def read (arguments : List String) : Option Wish :=
  match split arguments with
  | none => none
  | some (given, others) =>
    let has (name : OptionName) : Bool := given.any (·.1 == name)
    if has .help then some .help
    else match number? given .printLength, others with
      | .error (), _ => none
      | .ok _, _ :: _ :: _ => none
      | .ok length, others =>
        some (.run ⟨others.head?, value? given .baseUrl, value? given .script, has .quit,
          has .verbose, has .printing, length⟩)

end Options

end OperatorConsole
