import OperatorConsole.Catalog.Basic
import OperatorConsole.Catalog.Trait

/-!
Things that a name may lead to: catalogs, clients, functions, collections and others. A thing is asked
for its attributes by name, and a function is called to see what it gives; both may fail in any way. What
is left in the end is a catalog, clients, or nothing that makes one. A thing is the same whenever it is
asked; a function that gives itself for ever is one that fails.
-/
namespace OperatorConsole

/-- Why a thing that is used gives nothing. -/
inductive CallFault where
  | refusal (message : String)
  /-- The last part of a collection without parts is asked for. -/
  | nothingLeft
  | raised (e : Raised)
  deriving DecidableEq, Repr

namespace CallFault

/-- What kind of failure it is. -/
def nature : CallFault → Nature
  | raised e => e.nature
  | refusal _ | nothingLeft => .other

/-- The name of the type of the failure. -/
def kind : CallFault → String
  | refusal _ => "TypeError"
  | nothingLeft => "IndexError"
  | raised e => e.kind

/-- The report on a thing that gives nothing, or what is raised in its place. -/
def text : CallFault → Except Told String
  | refusal message => .ok message
  | nothingLeft => .ok "pop from empty list"
  | raised e => e.text

end CallFault

/-- What can be found under a name. -/
inductive Thing where
  | catalog (c : Catalog)
  /-- A client, or another type, which offers nothing, with attributes of its own. -/
  | client (c : Client) (own : List (String × Thing))
  /-- A function of nothing, by the name of its type, and what it gives. -/
  | function (typeName : String) (result : Except CallFault Thing)
  /-- A list or another collection, by the name of its type. -/
  | items (typeName : String) (parts : List Thing)
  /-- A thing of a type of its own, by the short and the full name of the type: its attributes, what it
  gives when it is called, and its parts, if it can be called and has parts. -/
  | object (typeName title : String) (attributes : List (String × Thing))
      (result : Option (Except CallFault Thing)) (parts : Option (List Thing))
  /-- A module by its name. -/
  | library (name : String) (attributes : List (String × Thing))
  /-- Any other thing, by the name of its type. -/
  | plain (typeName : String)
  /-- What is asked for raises something. -/
  | raising (e : Raised)

namespace Thing

/-! ### Types -/

/-- A type that is no client. -/
def ofType (name : String) : Thing := .client (.plain name []) []

/-- A thing that is nothing but its attributes. -/
def space (attributes : List (String × Thing)) : Thing :=
  .object "SimpleNamespace" "types.SimpleNamespace" attributes none none

/-- The name of the type of a thing. -/
def typeName : Thing → String
  | .catalog _ => "OperationCatalog"
  | .client .. => "type"
  | .function typeName _ => typeName
  | .items typeName _ => typeName
  | .object typeName .. => typeName
  | .library .. => "module"
  | .plain typeName => typeName
  | .raising e => e.kind

/-- What a thing is called that has not the attribute it is asked for. -/
def title : Thing → String
  | .client c _ => s!"type object '{c.name}'"
  | .library name _ => s!"module '{name}'"
  | .object _ title .. => s!"'{title}' object"
  | t => s!"'{t.typeName}' object"

/-! ### Attributes -/

/-- A function that gives a thing. -/
def giving (result : Thing) : Thing := .function "builtin_function_or_method" (.ok result)

/-- A function that refuses. -/
def refusing (message : String) : Thing :=
  .function "builtin_function_or_method" (.error (.refusal message))

/-- What a trait of a name is for a thing of a type. -/
def ofTrait (typeName name : String) : Trait → Thing
  | .value typeName => .plain typeName
  | .result typeName => giving (.plain typeName)
  | .nothing typeName => .items typeName []
  | .refusal message => refusing message
  | .single => refusing s!"{typeName}.{name}() takes exactly one argument (0 given)"
  | .unbound => refusing s!"descriptor '{name}' of 'object' object needs an argument"
  | .unboundMethod => refusing s!"unbound method object.{name}() needs an argument"

/-- The types behind a client, in the order of look-up. They are seen without attributes of their own. -/
def orderOf (c : Client) : List Thing :=
  if c.name == rootName && c.methods.isEmpty && c.bases.isEmpty then [.client c []]
  else .client c [] :: c.ancestors.map (.client · []) ++ [ofType rootName]

/-- The types that a client is built on directly. -/
def basesOf (c : Client) : List Thing :=
  if c.name == rootName && c.methods.isEmpty && c.bases.isEmpty then []
  else if c.bases.isEmpty then [ofType rootName]
  else c.bases.map (.client · [])

/-- The attributes of a client that depend on it. -/
def clientAttribute? (c : Client) : String → Option Thing
  | "mro" => some (giving (.items "list" (orderOf c)))
  | "__mro__" => some (.items "tuple" (orderOf c))
  | "__bases__" => some (.items "tuple" (basesOf c))
  | "__base__" => some ((basesOf c).headD (.plain "NoneType"))
  | "__subclasses__" => some (giving (.items "list" []))
  | _ => none

/-- The attributes of a collection that depend on its parts. -/
def itemsAttribute? (typeName : String) (parts : List Thing) (name : String) : Option Thing :=
  match typeName, name with
  | "list", "copy" => some (giving (.items "list" parts))
  | "list", "__iter__" => some (giving (.items "list_iterator" parts))
  | "list", "__reversed__" => some (giving (.items "list_reverseiterator" parts.reverse))
  | "list", "pop" =>
    some <| match parts.getLast? with
      | some last => giving last
      | none => .function "builtin_function_or_method" (.error .nothingLeft)
  | "list", "sort" =>
    some <| match parts with
      | a :: b :: _ =>
        refusing s!"'<' not supported between instances of '{b.typeName}' and '{a.typeName}'"
      | _ => giving (.plain "NoneType")
  | "tuple", "__iter__" => some (giving (.items "tuple_iterator" parts))
  | _, _ => none

/-- A collection of names: one with nothing in it still makes a catalog. -/
def namesOf (typeName : String) (c : Catalog) : Thing :=
  if c.services.isEmpty then .items typeName [] else .plain typeName

/-- The attributes of a catalog that depend on it. -/
def catalogAttribute? (c : Catalog) : String → Option Thing
  | "keys" => some (.function "method" (.ok (namesOf "KeysView" c)))
  | "values" => some (.function "method" (.ok (namesOf "ValuesView" c)))
  | "items" => some (.function "method" (.ok (namesOf "ItemsView" c)))
  | "from_clients" => some (.function "method" (.ok (.catalog .empty)))
  | "__iter__" => some (.function "method" (.ok (namesOf "dict_keyiterator" c)))
  | "__len__" => some (.function "method" (.ok (.plain "int")))
  | "_services" => some (namesOf "dict" c)
  | "__dict__" => some (.plain "dict")
  | "__module__" => some (.plain "str")
  | "__hash__" | "__reversed__" => some (.plain "NoneType")
  | "get" => some (refusing "Mapping.get() missing 1 required positional argument: 'key'")
  | "merge" => some (refusing "OperationCatalog.merge() missing 1 required positional argument: 'other'")
  | "__getitem__" =>
    some (refusing "OperationCatalog.__getitem__() missing 1 required positional argument: 'key'")
  | "__contains__" =>
    some (refusing "Mapping.__contains__() missing 1 required positional argument: 'key'")
  | "__eq__" => some (refusing "Mapping.__eq__() missing 1 required positional argument: 'other'")
  | "__abstractmethods__" => some (.items "frozenset" [])
  | _ => none

/-- The attributes of a thing that depend on what it holds. -/
def heldAttribute? (name : String) : Thing → Option Thing
  | .catalog c => catalogAttribute? c name
  | .client c own => (own.lookup name).or (clientAttribute? c name)
  | .function typeName result =>
    if name == "__call__" then some (.function "method-wrapper" result)
    else if name == "__name__" || name == "__qualname__" then some (.plain "str")
    else if name == "__self__" && typeName != "function" then some (.plain "object")
    else none
  | .items typeName parts => itemsAttribute? typeName parts name
  | .object _ _ attributes _ _ => attributes.lookup name
  | .library _ attributes => attributes.lookup name
  | .plain _ | .raising _ => none

/-- The attribute of a thing: its type, what it holds, or what all things of its type have. -/
def attribute? (t : Thing) (name : String) : Option Thing :=
  if name == "__class__" then some (ofType t.typeName)
  else (t.heldAttribute? name).or ((trait? t.typeName name).map (ofTrait t.typeName name))

/-! ### Catalogs -/

/-- The clients that things are, if all of them are clients. -/
def clients? (things : List Thing) : Option (List Client) :=
  things.mapM fun
    | .client c _ => some c
    | _ => none

/-- What is raised while things are listed, if anything is. -/
def raised? (things : List Thing) : Option Raised :=
  things.findSome? fun
    | .raising e => some e
    | _ => none

/-- Why a thing makes no catalog. -/
inductive Fault where
  | call (fault : CallFault)
  | noCatalog (typeName : String)
  deriving DecidableEq, Repr

/-- The catalog of clients, if all of them can be described. -/
def describe (clients : List Client) : Except Fault Catalog :=
  match clients.findSome? (·.unresolved?) with
  | some e => .error (.call (.raised e))
  | none => .ok (.ofClients clients)

/-- The catalog of the clients that the parts of a thing of a type are. -/
def describeParts (typeName : String) (parts : List Thing) : Except Fault Catalog :=
  match raised? parts, clients? parts with
  | some e, _ => .error (.call (.raised e))
  | none, some clients => describe clients
  | none, none => .error (.noCatalog typeName)

/-- The catalog that a thing is or stands for. -/
def toCatalog : Thing → Except Fault Catalog
  | .catalog c => .ok c
  | .client c _ => describe [c]
  | .function _ (.ok result) => result.toCatalog
  | .function _ (.error fault) => .error (.call fault)
  | .items typeName parts => describeParts typeName parts
  | .object _ _ _ (some (.ok result)) _ => result.toCatalog
  | .object _ _ _ (some (.error fault)) _ => .error (.call fault)
  | .object typeName _ _ none (some parts) => describeParts typeName parts
  | .object typeName _ _ none none => .error (.noCatalog typeName)
  | .library .. => .error (.noCatalog "module")
  | .plain typeName => .error (.noCatalog typeName)
  | .raising e => .error (.call (.raised e))

end Thing

end OperatorConsole
