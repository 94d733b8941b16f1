import OperatorConsole.Catalog.Client

/-!
Catalogs: services by the names of their clients, in order. Putting one catalog over another keeps
the order of the first and the services of the second.
-/
namespace OperatorConsole

/-- Services by the names of their clients, each name once. -/
structure Catalog where
  services : List Service

namespace Catalog

/-- The catalog without services. -/
def empty : Catalog := ⟨[]⟩

/-- Puts a service under the name of its client: in its place, or at the end. -/
def put (s : Service) : List Service → List Service
  | [] => [s]
  | t :: rest => if t.client == s.client then s :: rest else t :: put s rest

/-- The catalog of services; of several with one name the last one counts. -/
def ofServices (services : List Service) : Catalog :=
  ⟨services.foldl (fun found s => put s found) []⟩

/-- The catalog of clients. -/
def ofClients (clients : List Client) : Catalog := ofServices (clients.map (·.service))

/-- The services of both catalogs; those of the second win. -/
def merge (a b : Catalog) : Catalog := ofServices (a.services ++ b.services)

/-- The names of the clients. -/
def names (c : Catalog) : List String := c.services.map (·.client)

/-- The service of a client. -/
def get? (c : Catalog) (client : String) : Option Service := c.services.find? (·.client == client)

/-- The number of services. -/
def size (c : Catalog) : Nat := c.services.length

end Catalog

end OperatorConsole
