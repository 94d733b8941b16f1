import OperatorConsole.Catalog.Client
import OperatorConsole.Proofs.Keyed

/-!
What a client offers. A name of a client stands for the first method of that name in its order of
look-up. What is offered under a name is found in the same order, but methods that are no operations
are passed over; so an operation stays on offer behind a method that is none and takes its name. Main
result: the operations of a service are exactly those, each under a name of its own, and they are what
the names of the client stand for exactly if no operation is behind such a method.
-/
namespace OperatorConsole

/-! ### Methods by name -/

theorem puts_putMethod : Keyed.Puts (fun m : Method => m.name) putMethod where
  nil _ := rfl
  cons m n rest := by
    rw [putMethod]
    simp only [beq_iff_eq]

/-! ### Look-up -/

/-- What a layer has under a name: the last method of that name. -/
def methodIn (name : String) (layer : List Method) : Option Method :=
  layer.reverse.find? (·.name == name)

/-- The method that a name stands for: that of the first layer that has the name. -/
def Client.method? (c : Client) (name : String) : Option Method :=
  c.layers.findSome? (methodIn name)

/-- The first operation under a name; a layer that has another method under it is passed over. -/
def Client.operationUnder? (c : Client) (name : String) : Option Method :=
  c.layers.findSome? fun layer => (methodIn name layer).filter (·.isOperation)

section

variable {c : Client} {name : String} {m : Method} {o : Operation}

theorem name_of_methodIn {layer : List Method} (h : methodIn name layer = some m) :
    m.name = name := by
  simpa using List.find?_some h

theorem find?_layerMethods (layer : List Method) :
    (layerMethods layer).find? (·.name == name) = methodIn name layer := by
  rw [layerMethods, puts_putMethod.find?_foldl_put, List.find?_nil, Option.or_none, methodIn]

theorem nodup_layerMethods (layer : List Method) : ((layerMethods layer).map (·.name)).Nodup :=
  puts_putMethod.nodup_foldl_put List.nodup_nil

/-- The public operation of a layer under a name. -/
theorem find?_offered_layer (layer : List Method) :
    ((layerMethods layer).filter (·.isOffered)).reverse.find? (·.name == name) =
      if isPrivate name then none else (methodIn name layer).filter (·.isOperation) := by
  have hd := nodup_layerMethods layer
  have hd' : (((layerMethods layer).filter (·.isOffered)).map (·.name)).Nodup :=
    hd.sublist (List.filter_sublist.map _)
  rw [← Keyed.find?_perm hd' (List.reverse_perm _).symm, Keyed.find?_filter hd,
    find?_layerMethods]
  cases hm : methodIn name layer with
  | none => simp
  | some m =>
    have hname := name_of_methodIn hm
    cases hp : isPrivate name <;> simp [Option.filter, Method.isOffered, hname, hp]

theorem find?_offered (c : Client) (name : String) : c.offered.find? (·.name == name) =
    if isPrivate name then none else c.operationUnder? name := by
  rw [Client.offered, puts_putMethod.find?_foldl_put, List.find?_nil, Option.or_none, List.reverse_flatMap,
    List.reverse_reverse, List.find?_flatMap]
  simp only [Function.comp_def, find?_offered_layer]
  cases isPrivate name
  · rfl
  · exact List.findSome?_eq_none_iff.2 fun _ _ => rfl

theorem nodup_offered (c : Client) : (c.offered.map (·.name)).Nodup :=
  puts_putMethod.nodup_foldl_put List.nodup_nil

theorem mem_offered_iff : m ∈ c.offered ↔
    isPrivate m.name = false ∧ c.operationUnder? m.name = some m := by
  have h := Keyed.find?_eq_some_iff (nodup_offered c) (k := m.name) (a := m)
  rw [find?_offered] at h
  cases hp : isPrivate m.name <;> simpa [hp] using h.symm

/-! ### Operations -/

theorem name_of_operation? (h : m.operation? = some o) : o.name = m.name := by
  rw [Method.operation?, Option.map_eq_some_iff] at h
  obtain ⟨formals, -, rfl⟩ := h
  rfl

theorem name_of_operationUnder? (h : c.operationUnder? name = some m) : m.name = name := by
  obtain ⟨layer, -, hm⟩ := List.exists_of_findSome?_eq_some h
  exact name_of_methodIn (Option.filter_eq_some_iff.1 hm).1

theorem mem_operations_iff : o ∈ c.service.operations ↔ isPrivate o.name = false ∧
    ∃ m, c.operationUnder? o.name = some m ∧ m.operation? = some o := by
  rw [Client.service, List.mem_filterMap]
  constructor
  · rintro ⟨m, hm, ho⟩
    rw [name_of_operation? ho]
    obtain ⟨hpublic, hunder⟩ := mem_offered_iff.1 hm
    exact ⟨hpublic, m, hunder, ho⟩
  · rintro ⟨hpublic, m, hunder, ho⟩
    rw [name_of_operation? ho] at hpublic hunder
    exact ⟨m, mem_offered_iff.2 ⟨hpublic, hunder⟩, ho⟩

theorem map_name_filterMap_operation? : ∀ methods : List Method,
    ((methods.filterMap (·.operation?)).map (·.name)).Sublist (methods.map (·.name))
  | [] => .slnil
  | m :: methods => by
    have ih := map_name_filterMap_operation? methods
    cases ho : m.operation? with
    | none => simpa [List.filterMap_cons, ho] using ih.cons m.name
    | some o => simpa [List.filterMap_cons, ho, name_of_operation? ho] using ih

theorem nodup_operations (c : Client) : (c.service.operations.map (·.name)).Nodup :=
  (nodup_offered c).sublist (map_name_filterMap_operation? c.offered)

/-! ### Operations behind other methods -/

/-- The operations are those that the public names of the client stand for. -/
def Client.OffersWhatNamesMean (c : Client) : Prop :=
  ∀ o, o ∈ c.service.operations ↔ isPrivate o.name = false ∧
    ∃ m, c.method? o.name = some m ∧ m.isOperation = true ∧ m.operation? = some o

/-- A public name stands for a method that is no operation, with an operation that can be called
behind it. -/
def Client.Hides (c : Client) (name : String) : Prop :=
  isPrivate name = false ∧ (∃ m, c.method? name = some m ∧ m.isOperation = false) ∧
    ∃ m o, c.operationUnder? name = some m ∧ m.operation? = some o

theorem findSome?_operation : ∀ layers : List (List Method),
    layers.findSome? (methodIn name) = none →
    layers.findSome? (fun layer => (methodIn name layer).filter (·.isOperation)) = none
  | layers, h => by
    rw [List.findSome?_eq_none_iff] at h ⊢
    intro layer hl
    rw [h layer hl]
    rfl

/-- An operation that a name stands for is the first one under the name. -/
theorem operationUnder?_of_method? (h : c.method? name = some m) (hm : m.isOperation = true) :
    c.operationUnder? name = some m := by
  obtain ⟨before, layer, after, hlayers, hlayer, hbefore⟩ := List.findSome?_eq_some_iff.1 h
  refine List.findSome?_eq_some_iff.2 ⟨before, layer, after, hlayers, ?_, fun l hl => ?_⟩
  · rw [hlayer]
    simp [Option.filter, hm]
  · rw [hbefore l hl]
    rfl

theorem exists_method?_of_operationUnder? (h : c.operationUnder? name = some m) :
    ∃ n, c.method? name = some n := by
  cases hm : c.method? name with
  | some n => exact ⟨n, rfl⟩
  | none =>
    rw [Client.operationUnder?, findSome?_operation c.layers hm] at h
    exact absurd h (by simp)

theorem offersWhatNamesMean_iff : c.OffersWhatNamesMean ↔ ∀ name, ¬ c.Hides name := by
  constructor
  · rintro h name ⟨hpublic, ⟨m, hm, hplain⟩, n, o, hn, ho⟩
    have hname : o.name = name := (name_of_operation? ho).trans (name_of_operationUnder? hn)
    subst hname
    obtain ⟨-, m', hm', hoperation, -⟩ := (h o).1 (mem_operations_iff.2 ⟨hpublic, n, hn, ho⟩)
    obtain rfl : m = m' := Option.some_inj.1 (hm.symm.trans hm')
    rw [hplain] at hoperation
    exact absurd hoperation (by simp)
  · intro h o
    rw [mem_operations_iff]
    refine and_congr_right fun hpublic => ⟨?_, ?_⟩
    · rintro ⟨m, hm, ho⟩
      obtain ⟨n, hn⟩ := exists_method?_of_operationUnder? hm
      have hoperation : n.isOperation = true := by
        by_contra hplain
        exact h o.name ⟨hpublic, ⟨n, hn, by simpa using hplain⟩, m, o, hm, ho⟩
      obtain rfl : m = n :=
        Option.some_inj.1 (hm.symm.trans (operationUnder?_of_method? hn hoperation))
      exact ⟨m, hn, hoperation, ho⟩
    · rintro ⟨m, hm, hoperation, ho⟩
      exact ⟨m, operationUnder?_of_method? hm hoperation, ho⟩

/-- Whatever a client builds on, its service has the public operations that are first under their
names and can be called, each name once. They are those that the names stand for, so that an override
of any kind wins, exactly if no operation is behind a method that is none. -/
theorem operations_exact (c : Client) :
    (∀ o, o ∈ c.service.operations ↔ isPrivate o.name = false ∧
      ∃ m, c.operationUnder? o.name = some m ∧ m.operation? = some o) ∧
    (c.service.operations.map (·.name)).Nodup ∧
    (c.OffersWhatNamesMean ↔ ∀ name, ¬ c.Hides name) :=
  ⟨fun _ => mem_operations_iff, nodup_operations c, offersWhatNamesMean_iff⟩

/-- A method without parameters that answers with success. -/
def pingMethod (isOperation : Bool) : Method :=
  ⟨"ping", isOperation, [], none, fun _ _ w => (.response (.ofStatus 200), w)⟩

/-- A client that overrides an operation of the one it builds on by a method that is none. -/
def silentClient : Client :=
  ⟨"SilentClient", .plain "SilentClient", [pingMethod false], [.plain "PingClient" [pingMethod true]],
    [.plain "PingClient" [pingMethod true]]⟩

theorem silentClient_offers_ping : ¬ silentClient.OffersWhatNamesMean ∧
    silentClient.service.operations.map (·.name) = ["ping"] ∧
    silentClient.method? "ping" = some (pingMethod false) := by
  refine ⟨fun h => ?_, by decide +kernel, rfl⟩
  refine offersWhatNamesMean_iff.1 h "ping"
    ⟨by decide +kernel, ⟨pingMethod false, rfl, rfl⟩, ?_⟩
  exact ⟨pingMethod true, _, rfl, rfl⟩

end

end OperatorConsole
