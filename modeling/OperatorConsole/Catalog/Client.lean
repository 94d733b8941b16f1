import OperatorConsole.Catalog.LookupOrder
import OperatorConsole.Catalog.Method

/-!
Clients and what they offer. A client has methods of its own and those of the clients it builds on.
All clients it builds on, itself first, stand in one order that keeps the order of each of them; a
name means the first method of that name. Methods that cannot be called from a line are left out.
-/
namespace OperatorConsole

/-- A client as it is declared: under a key of its own, with the keys of the clients it builds on. -/
structure Declaration where
  key : String
  name : String
  bases : List String
  factory : Factory
  methods : List Method

/-- A client: its own methods, the clients it is built on directly, and all clients behind it in the
order of look-up. All clients stand on one root without methods, which ends each order and is left
out. -/
structure Client where
  name : String
  factory : Factory
  methods : List Method
  bases : List Client
  ancestors : List Client

/-! ### From declarations to clients -/

/-- Why declarations describe no clients. -/
inductive DeclarationFault where
  | parameters (fault : ParameterFault)
  /-- Nothing is known under a key. -/
  | unknown (key : String)
  /-- There is no order of look-up; the keys are replaced by names. -/
  | order (fault : OrderFault String)
  deriving DecidableEq, Repr

/-- The report on declarations. -/
def DeclarationFault.message : DeclarationFault → String
  | .parameters fault => fault.message
  | .unknown key => quoted key
  | .order (.repeated name) => s!"duplicate base class {name}"
  | .order (.inconsistent names) =>
    "Cannot create a consistent method resolution\norder (MRO) for bases " ++ ", ".intercalate names

/-- What all clients stand on. -/
def rootName : String := "object"

/-- Clients by their keys, with the order of look-up of each by keys; no key stands for the root. -/
abbrev Clients := List (String × Client × List (Option String))

/-- What is known under a key. -/
def Clients.find (known : Clients) (key : String) :
    Except DeclarationFault (Client × List (Option String)) :=
  match known.lookup key with
  | some found => .ok found
  | none => .error (.unknown key)

/-- The name of what a key stands for. -/
def Clients.nameOf (known : Clients) : Option String → String
  | none => rootName
  | some key => ((known.lookup key).map (·.1.name)).getD key

/-- The fault by the names of clients instead of keys. -/
def OrderFault.named (known : Clients) : OrderFault (Option String) → OrderFault String
  | .repeated key => .repeated (known.nameOf key)
  | .inconsistent keys => .inconsistent (keys.map known.nameOf)

/-- The order of look-up of a client that builds on others. On a single one no order can fail. -/
def orderOn (known : Clients) (key : String) (bases : List (String × Client × List (Option String))) :
    Except DeclarationFault (List (Option String)) :=
  match bases with
  | [] => .ok [some key, none]
  | [(_, _, order)] => .ok (some key :: order)
  | bases =>
    match LookupOrder.ofBases (some key) (bases.map fun b => some b.1) (bases.map (·.2.2)) with
    | .ok order => .ok order
    | .error fault => .error (.order (fault.named known))

/-- Adds the client of a declaration to those that are known. -/
def Clients.declare (known : Clients) (d : Declaration) : Except DeclarationFault Clients := do
  match d.methods.findSome? (·.fault?) with
  | some fault => throw (.parameters fault)
  | none =>
    let bases ← d.bases.mapM fun key => do return (key, ← known.find key)
    let order ← orderOn known d.key bases
    let ancestors := (order.drop 1).filterMap fun key =>
      key.bind fun key => (known.lookup key).map (·.1)
    return known ++ [(d.key, ⟨d.name, d.factory, d.methods, bases.map (·.2.1), ancestors⟩, order)]

/-- The clients of declarations by their keys, each built on earlier ones. -/
def clientsOf (declarations : List Declaration) : Except DeclarationFault (List (String × Client)) := do
  let known ← declarations.foldlM Clients.declare ([] : Clients)
  return known.map fun (key, client, _) => (key, client)

/-! ### Operations -/

/-- The methods of a layer, the last one of each name. -/
def layerMethods (layer : List Method) : List Method := layer.foldl (fun found m => putMethod m found) []

/-- The methods of the client itself and of all clients behind it, in the order of look-up. -/
def Client.layers (c : Client) : List (List Method) := c.methods :: c.ancestors.map (·.methods)

/-- The public operations of all layers: those of the last layer first, each replaced by the one of
its name in an earlier layer. -/
def Client.offered (c : Client) : List Method :=
  (c.layers.reverse.flatMap fun layer => (layerMethods layer).filter (·.isOffered)).foldl
    (fun found m => putMethod m found) []

/-- The service of a client. -/
def Client.service (c : Client) : Service := ⟨c.name, c.factory, c.offered.filterMap (·.operation?)⟩

/-- What is raised when the client is described, if anything is: what the first of its operations raises
of which a type does not exist. -/
def Client.unresolved? (c : Client) : Option Raised := c.offered.findSome? (·.unresolved)

/-- A client that builds on no other and holds nothing of its own. -/
def Client.plain (name : String) (methods : List Method) : Client :=
  ⟨name, .plain name, methods, [], []⟩

end OperatorConsole
