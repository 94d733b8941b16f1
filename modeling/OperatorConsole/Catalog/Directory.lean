import OperatorConsole.Catalog.Basic
import OperatorConsole.Text.Blank

/-!
The directory of a catalog: its services by the names that lines use, and the help on them. Two
services may not share a name.
-/
namespace OperatorConsole

/-- Two clients with one service name. -/
structure NameClash where
  service : String
  first : String
  second : String
  deriving DecidableEq, Repr

/-- The report on two clients with one service name. -/
def NameClash.message (c : NameClash) : String :=
  s!"Service name '{c.service}' is used by both '{c.first}' and '{c.second}'"

/-- The services of a catalog, all of different names. -/
structure Directory where
  services : List Service

namespace Directory

/-- Adds a service whose name is not in use. -/
def add (services : List Service) (s : Service) : Except NameClash (List Service) :=
  match services.find? (·.name == s.name) with
  | some t => .error ⟨s.name, t.client, s.client⟩
  | none => .ok (services ++ [s])

/-- The directory of a catalog. -/
def ofCatalog (c : Catalog) : Except NameClash Directory := do
  return ⟨← c.services.foldlM add []⟩

/-- The service of a name. -/
def service? (d : Directory) (name : String) : Option Service := d.services.find? (·.name == name)

/-! ### Resolution -/

/-- Why a command cannot be resolved. -/
inductive Fault where
  | unknownService (service : String)
  | unknownVerb (service verb : String)
  | ambiguousVerb (service verb : String)
  deriving DecidableEq, Repr

/-- The report on a command that cannot be resolved. -/
def Fault.message : Fault → String
  | .unknownService service => s!"Unknown service '{service}'"
  | .unknownVerb service verb => s!"Service '{service}' does not understand '{verb}'"
  | .ambiguousVerb service verb => s!"Service '{service}' has more than one '{verb}'"

/-- The only operation of a service with a verb. -/
def operation (s : Service) (verb : String) : Except Fault Operation :=
  match s.operations.filter (·.verb == verb) with
  | [] => .error (.unknownVerb s.name verb)
  | [o] => .ok o
  | _ => .error (.ambiguousVerb s.name verb)

/-- The service and the operation that two names mean. -/
def resolve (d : Directory) (service verb : String) : Except Fault (Service × Operation) :=
  match d.service? service with
  | none => .error (.unknownService service)
  | some s => (operation s verb).map (s, ·)

/-! ### Help -/

/-- The parameters that a verb is listed with. -/
def signature (o : Operation) : String :=
  match o.visible with
  | [] => ""
  | ps => " <" ++ "> <".intercalate (ps.map fun p => s!"{p.name} ({p.label})") ++ ">"

/-- The list of all services. -/
def describeAll (d : Directory) : String :=
  "\n".intercalate
    (["Services:"] ++ d.services.map (fun s => s!"  {s.name}") ++ ["'help <service-name>' for more info"])
    ++ "\n"

/-- The verbs of a service. -/
def describe (d : Directory) (name : String) : String :=
  match d.service? name with
  | none => s!"Invalid service '{name}'"
  | some s =>
    "\n".intercalate
      (s!"{name} service:" :: s.operations.map fun o => s!"  {o.verb}{signature o}") ++ "\n"

/-- The help on a service, or on all of them when the name is blank. -/
def help (d : Directory) (service : String) : String :=
  if (Text.strip service.toList).isEmpty then d.describeAll else d.describe service

end Directory

end OperatorConsole
