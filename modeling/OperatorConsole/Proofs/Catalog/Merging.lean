import OperatorConsole.Catalog.Basic
import OperatorConsole.Proofs.Keyed

/-!
Catalogs put over one another. Making a catalog of services keeps the order in which clients first occur and
the last service of each. So catalogs are to merging what lists of services are to appending: merging is
associative, the empty catalog changes nothing, and neither does a catalog that is put over itself.
-/
namespace OperatorConsole.Catalog

variable {a b c : Catalog} {services front back : List Service} {client : String}

/-- Each client has one service in the catalog. -/
def IsProper (c : Catalog) : Prop := c.names.Nodup

/-! ### Catalogs of services -/

theorem puts : Keyed.Puts Service.client put where
  nil _ := rfl
  cons s t rest := by
    rw [put]
    simp only [beq_iff_eq]

/-- The clients stand in the order in which they first occur. -/
theorem names_ofServices (services : List Service) :
    (ofServices services).names = (services.map (·.client)).eraseDups :=
  puts.map_foldl_put services

/-- Of several services of one client the last one counts. -/
theorem get?_ofServices (services : List Service) (client : String) :
    (ofServices services).get? client = services.reverse.find? (·.client == client) :=
  (puts.find?_foldl_put services [] client).trans Option.or_none

theorem isProper_ofServices (services : List Service) : (ofServices services).IsProper := by
  rw [IsProper, names_ofServices]
  exact Keyed.nodup_eraseDups _

/-- A catalog is told by its clients in order and the service of each. -/
theorem IsProper.eq_of_get?_eq (ha : a.IsProper) (hnames : a.names = b.names)
    (hget : ∀ client, a.get? client = b.get? client) : a = b := by
  have hservices : a.services = b.services := Keyed.eq_of_find?_eq ha hnames hget
  cases a
  cases b
  exact congrArg _ hservices

/-- In a catalog the first service of a client is also the last one. -/
theorem IsProper.get?_eq (h : c.IsProper) (client : String) :
    c.get? client = c.services.reverse.find? (·.client == client) :=
  Keyed.find?_perm h (List.reverse_perm c.services).symm

theorem IsProper.ofServices_eq (h : c.IsProper) : ofServices c.services = c := by
  refine (isProper_ofServices _).eq_of_get?_eq ?_ fun client => ?_
  · rw [names_ofServices]
    exact Keyed.eraseDups_of_nodup h
  · rw [get?_ofServices, h.get?_eq]

/-- Such catalogs are those that are made of services. -/
theorem isProper_iff : c.IsProper ↔ ∃ services, c = ofServices services := by
  constructor
  · intro h
    exact ⟨c.services, h.ofServices_eq.symm⟩
  · rintro ⟨services, rfl⟩
    exact isProper_ofServices services

/-! ### Merging -/

theorem ofServices_append (front back : List Service) : ofServices (front ++ back) =
    ⟨back.foldl (fun found s => put s found) (ofServices front).services⟩ := by
  rw [ofServices, List.foldl_append, ofServices]

theorem ofServices_append_services (front back : List Service) :
    ofServices ((ofServices front).services ++ back) = ofServices (front ++ back) := by
  rw [ofServices_append, ofServices_append front, (isProper_ofServices front).ofServices_eq]

theorem ofServices_services_append (front back : List Service) :
    ofServices (front ++ (ofServices back).services) = ofServices (front ++ back) := by
  refine (isProper_ofServices _).eq_of_get?_eq ?_ fun client => ?_
  · have hback : ((ofServices back).services.map (·.client)) = (back.map (·.client)).eraseDups :=
      names_ofServices back
    rw [names_ofServices, names_ofServices, List.map_append, List.map_append, hback,
      List.eraseDups_append, List.eraseDups_append]
    -- leaving out what has occurred before and keeping first occurrences can change places
    congr 1
    rw [List.removeAll, List.removeAll, Keyed.filter_eraseDups]
    exact Keyed.eraseDups_of_nodup (Keyed.nodup_eraseDups _)
  · rw [get?_ofServices, get?_ofServices, List.reverse_append, List.reverse_append, List.find?_append,
      List.find?_append, ← (isProper_ofServices back).get?_eq, get?_ofServices]

/-- Merging catalogs is appending the services that they are made of. -/
theorem merge_ofServices (front back : List Service) :
    (ofServices front).merge (ofServices back) = ofServices (front ++ back) := by
  rw [merge, ofServices_append_services, ofServices_services_append]

/-- Of a catalog that is put over another one only the services that it is made of count. -/
theorem merge_congr (h : ofServices b.services = ofServices c.services) : a.merge b = a.merge c := by
  rw [merge, merge, ← ofServices_services_append, h, ofServices_services_append]

theorem merge_assoc (ha : a.IsProper) (hb : b.IsProper) (hc : c.IsProper) :
    (a.merge b).merge c = a.merge (b.merge c) := by
  obtain ⟨x, rfl⟩ := isProper_iff.1 ha
  obtain ⟨y, rfl⟩ := isProper_iff.1 hb
  obtain ⟨z, rfl⟩ := isProper_iff.1 hc
  simp only [merge_ofServices, List.append_assoc]

theorem merge_empty (ha : a.IsProper) : a.merge empty = a := by
  rw [merge, show empty.services = [] from rfl, List.append_nil, ha.ofServices_eq]

theorem empty_merge (ha : a.IsProper) : empty.merge a = a := ha.ofServices_eq

theorem isProper_merge (a b : Catalog) : (a.merge b).IsProper := isProper_ofServices _

/-- The clients of the first catalog come first, then those of the second that are new. -/
theorem names_merge (ha : a.IsProper) (hb : b.IsProper) :
    (a.merge b).names = a.names ++ b.names.filter (· ∉ a.names) := by
  have hnew : b.names.removeAll a.names = b.names.filter (· ∉ a.names) := by
    rw [List.removeAll]
    congr 1
    funext client
    simp
  have hnames : (a.services ++ b.services).map (·.client) = a.names ++ b.names := List.map_append
  rw [merge, names_ofServices, hnames, List.eraseDups_append, Keyed.eraseDups_of_nodup ha, hnew,
    Keyed.eraseDups_of_nodup (List.Nodup.filter _ hb)]

/-- A client has its service of the second catalog, or else that of the first. -/
theorem get?_merge (ha : a.IsProper) (hb : b.IsProper) (client : String) :
    (a.merge b).get? client = (b.get? client).or (a.get? client) := by
  rw [merge, get?_ofServices, List.reverse_append, List.find?_append, ← ha.get?_eq, ← hb.get?_eq]

theorem merge_self (ha : a.IsProper) : a.merge a = a := by
  refine (isProper_merge a a).eq_of_get?_eq ?_ fun client => ?_
  · have hnone : a.names.filter (· ∉ a.names) = [] := by simp
    rw [names_merge ha ha, hnone, List.append_nil]
  · rw [get?_merge ha ha, Option.or_self]

end OperatorConsole.Catalog
