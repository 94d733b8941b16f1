import OperatorConsole.Catalog.Directory
import OperatorConsole.Proofs.Keyed
import OperatorConsole.Proofs.Steps

/-!
Directories. A catalog has a directory exactly if no two of its services share a name, and the
directory holds all of its services in order. A name means the service that bears it, a verb means the
operation that alone has it.
-/
namespace OperatorConsole

/-- Two services of the catalog have one name. -/
def Catalog.SharesName (c : Catalog) : Prop :=
  ∃ s t, [s, t].Sublist c.services ∧ s.name = t.name

theorem Catalog.sharesName_iff {c : Catalog} :
    c.SharesName ↔ ¬ (c.services.map (·.name)).Nodup := by
  rw [List.Nodup, List.pairwise_map, List.pairwise_iff_forall_sublist, SharesName]
  constructor
  · rintro ⟨s, t, hst, hname⟩ h
    exact h hst hname
  · intro h
    by_contra hno
    exact h fun {s t} hst hname => hno ⟨s, t, hst, hname⟩

namespace Directory

variable {c : Catalog} {d : Directory} {services rest out : List Service} {s : Service}
  {clash : NameClash} {name verb : String} {o : Operation}

/-! ### Building -/

theorem nodup_names_append (hd : (services.map (·.name)).Nodup)
    (hne : ∀ t ∈ services, t.name ≠ s.name) : ((services ++ [s]).map (·.name)).Nodup := by
  rw [List.map_append, List.nodup_append]
  refine ⟨hd, List.nodup_singleton _, ?_⟩
  intro n hn m hm
  obtain ⟨t, ht, rfl⟩ := List.mem_map.1 hn
  obtain rfl : m = s.name := by simpa using hm
  exact hne t ht

theorem add_eq_ok_iff : add services s = .ok out ↔
    (∀ t ∈ services, t.name ≠ s.name) ∧ out = services ++ [s] := by
  unfold add
  cases h : services.find? (·.name == s.name) with
  | none =>
    have hne : ∀ t ∈ services, t.name ≠ s.name := by simpa using h
    rw [and_iff_right hne, Except.ok.injEq, eq_comm]
  | some t =>
    simp only [reduceCtorEq, false_iff, not_and]
    intro hne
    exact absurd (by simpa using List.find?_some h) (hne t (List.mem_of_find?_eq_some h))

theorem exists_clash_of_add (h : add services s = .error clash) :
    ∃ t ∈ services, t.name = s.name ∧ clash = ⟨t.name, t.client, s.client⟩ := by
  unfold add at h
  cases hfind : services.find? (·.name == s.name) with
  | none =>
    rw [hfind] at h
    cases h
  | some t =>
    rw [hfind] at h
    have hname : t.name = s.name := by simpa using List.find?_some hfind
    cases h
    exact ⟨t, List.mem_of_find?_eq_some hfind, hname, by rw [hname]⟩

/-- Adding services one after another succeeds exactly if all names are different. -/
theorem foldlM_add_eq_ok_iff : ∀ {rest services : List Service}, (services.map (·.name)).Nodup →
    (rest.foldlM add services = .ok out ↔
      ((services ++ rest).map (·.name)).Nodup ∧ out = services ++ rest)
  | [], services, hd => by
    rw [List.append_nil, and_iff_right hd, List.foldlM_nil]
    constructor
    · rintro ⟨⟩
      rfl
    · rintro rfl
      rfl
  | s :: rest, services, hd => by
    rw [List.foldlM_cons, andThen_eq_ok_iff]
    have hassoc : services ++ s :: rest = services ++ [s] ++ rest := by simp
    rw [hassoc]
    constructor
    · rintro ⟨known, hadd, hrest⟩
      obtain ⟨hne, rfl⟩ := add_eq_ok_iff.1 hadd
      exact (foldlM_add_eq_ok_iff (nodup_names_append hd hne)).1 hrest
    · rintro ⟨hall, hout⟩
      have hne : ∀ t ∈ services, t.name ≠ s.name := by
        intro t ht hname
        rw [← hassoc, List.map_append, List.nodup_append] at hall
        exact hall.2.2 t.name (List.mem_map_of_mem ht) s.name (by simp) hname
      exact ⟨_, add_eq_ok_iff.2 ⟨hne, rfl⟩,
        (foldlM_add_eq_ok_iff (nodup_names_append hd hne)).2 ⟨hall, hout⟩⟩

/-- Adding fails with two services of one name. -/
theorem exists_clash_of_foldlM_add : ∀ {rest services : List Service},
    rest.foldlM add services = .error clash → ∃ s t, [s, t].Sublist (services ++ rest) ∧
      s.name = t.name ∧ clash = ⟨s.name, s.client, t.client⟩
  | [], _, h => by cases h
  | t :: rest, services, h => by
    rw [List.foldlM_cons] at h
    rcases andThen_eq_error_iff.1 h with hadd | ⟨known, hadd, hrest⟩
    · obtain ⟨s, hs, hname, rfl⟩ := exists_clash_of_add hadd
      refine ⟨s, t, ?_, hname, rfl⟩
      exact (List.singleton_sublist.2 hs).append (List.singleton_sublist.2 (by simp))
    · obtain ⟨-, rfl⟩ := add_eq_ok_iff.1 hadd
      obtain ⟨s, u, hsu, hclash⟩ := exists_clash_of_foldlM_add hrest
      exact ⟨s, u, by simpa using hsu, hclash⟩

theorem ofCatalog_eq_ok_iff :
    ofCatalog c = .ok d ↔ (c.services.map (·.name)).Nodup ∧ d.services = c.services := by
  have hfold : ∀ out, c.services.foldlM add [] = .ok out ↔
      (c.services.map (·.name)).Nodup ∧ out = c.services := fun _ => foldlM_add_eq_ok_iff (by simp)
  rw [ofCatalog, andThen_eq_ok_iff]
  constructor
  · rintro ⟨out, hout, h⟩
    obtain ⟨hd, rfl⟩ := (hfold out).1 hout
    cases h
    exact ⟨hd, rfl⟩
  · rintro ⟨hd, hs⟩
    exact ⟨_, (hfold _).2 ⟨hd, rfl⟩, hs ▸ rfl⟩

theorem exists_ofCatalog_eq_error_iff : (∃ clash, ofCatalog c = .error clash) ↔ c.SharesName := by
  rw [Catalog.sharesName_iff]
  constructor
  · rintro ⟨clash, h⟩ hd
    have hok : ofCatalog c = .ok ⟨c.services⟩ := ofCatalog_eq_ok_iff.2 ⟨hd, rfl⟩
    rw [h] at hok
    cases hok
  · intro hd
    cases h : ofCatalog c with
    | error clash => exact ⟨clash, rfl⟩
    | ok d => exact absurd (ofCatalog_eq_ok_iff.1 h).1 hd

/-- The report names the two clients. -/
theorem exists_clash_of_ofCatalog (h : ofCatalog c = .error clash) :
    ∃ s t, [s, t].Sublist c.services ∧ s.name = t.name ∧ clash = ⟨s.name, s.client, t.client⟩ := by
  rw [ofCatalog] at h
  rcases andThen_eq_error_iff.1 h with h | ⟨_, -, h⟩
  · simpa using exists_clash_of_foldlM_add h
  · cases h

/-! ### Services and operations -/

theorem service?_eq_some_iff (hd : (d.services.map (·.name)).Nodup) :
    d.service? name = some s ↔ s ∈ d.services ∧ s.name = name :=
  Keyed.find?_eq_some_iff hd

theorem service?_eq_none_iff : d.service? name = none ↔ ∀ s ∈ d.services, s.name ≠ name := by
  simp [service?]

theorem operation_eq_ok_iff : operation s verb = .ok o ↔ s.operations.filter (·.verb == verb) = [o] := by
  unfold operation
  cases s.operations.filter (·.verb == verb) with
  | nil => simp
  | cons p rest => cases rest <;> simp

theorem operation_eq_unknownVerb_iff {service : String} :
    operation s verb = .error (.unknownVerb service verb) ↔
      service = s.name ∧ ∀ o ∈ s.operations, o.verb ≠ verb := by
  have hnil : (∀ o ∈ s.operations, o.verb ≠ verb) ↔ s.operations.filter (·.verb == verb) = [] := by
    simp [List.filter_eq_nil_iff]
  rw [hnil]
  unfold operation
  cases s.operations.filter (·.verb == verb) with
  | nil => simp [eq_comm]
  | cons p rest => cases rest <;> simp

theorem operation_eq_ambiguousVerb_iff {service : String} :
    operation s verb = .error (.ambiguousVerb service verb) ↔
      service = s.name ∧ 2 ≤ s.operations.countP (·.verb == verb) := by
  rw [List.countP_eq_length_filter]
  unfold operation
  cases s.operations.filter (·.verb == verb) with
  | nil => simp
  | cons p rest => cases rest <;> simp [eq_comm]

theorem operation_ne_unknownService {service : String} :
    operation s verb ≠ .error (.unknownService service) := by
  unfold operation
  cases s.operations.filter (·.verb == verb) with
  | nil => simp
  | cons p rest => cases rest <;> simp

/-! ### Resolution -/

theorem resolve_of_service? (h : d.service? name = some s) :
    d.resolve name verb = (operation s verb).map (s, ·) := by
  rw [resolve, h]

/-- Names are not resolved exactly if no service bears the one, or the service that does has not exactly
one operation with the other. -/
theorem resolve_eq_error_iff (hd : (d.services.map (·.name)).Nodup) {fault : Fault} :
    d.resolve name verb = .error fault ↔
      (fault = .unknownService name ∧ ∀ s ∈ d.services, s.name ≠ name) ∨
        ∃ s ∈ d.services, s.name = name ∧ operation s verb = .error fault := by
  cases hs : d.service? name with
  | none =>
    have hne := service?_eq_none_iff.1 hs
    have hsome : ¬ ∃ s ∈ d.services, s.name = name ∧ operation s verb = .error fault := by
      rintro ⟨s, hs, hname, -⟩
      exact hne s hs hname
    rw [resolve, hs, or_iff_left hsome, and_iff_left hne, Except.error.injEq, eq_comm]
  | some s =>
    obtain ⟨hmem, rfl⟩ := (service?_eq_some_iff hd).1 hs
    rw [resolve_of_service? hs, map_eq_error_iff]
    constructor
    · intro h
      exact .inr ⟨s, hmem, rfl, h⟩
    · rintro (⟨-, hne⟩ | ⟨t, ht, hname, h⟩)
      · exact absurd rfl (hne s hmem)
      · have hts : d.service? s.name = some t := (service?_eq_some_iff hd).2 ⟨ht, hname⟩
        obtain rfl : s = t := Option.some.inj (hs.symm.trans hts)
        exact h

theorem resolve_eq_unknownService_iff (hd : (d.services.map (·.name)).Nodup) :
    d.resolve name verb = .error (.unknownService name) ↔ ∀ s ∈ d.services, s.name ≠ name := by
  simp [resolve_eq_error_iff hd, operation_ne_unknownService]

theorem resolve_eq_unknownVerb_iff (hd : (d.services.map (·.name)).Nodup) :
    d.resolve name verb = .error (.unknownVerb name verb) ↔
      ∃ s ∈ d.services, s.name = name ∧ ∀ o ∈ s.operations, o.verb ≠ verb := by
  simp only [resolve_eq_error_iff hd, operation_eq_unknownVerb_iff, reduceCtorEq, false_and, false_or]
  grind

theorem resolve_eq_ambiguousVerb_iff (hd : (d.services.map (·.name)).Nodup) :
    d.resolve name verb = .error (.ambiguousVerb name verb) ↔
      ∃ s ∈ d.services, s.name = name ∧ 2 ≤ s.operations.countP (·.verb == verb) := by
  simp only [resolve_eq_error_iff hd, operation_eq_ambiguousVerb_iff, reduceCtorEq, false_and, false_or]
  grind

end Directory

end OperatorConsole
