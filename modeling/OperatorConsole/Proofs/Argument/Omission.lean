import OperatorConsole.Catalog.Method
import OperatorConsole.Proofs.Argument.Flattened

/-!
Parameters that a command leaves out. A parameter with a default gets it, whatever its type is and
whatever stands beside it, unless it is bound through its fields. Then its own default has no part in the
call: the operation gets a new record, in which every field is as the record has it by default. So it
makes a difference for the default of one parameter whether there is another one.
-/
namespace OperatorConsole

/-- The parameters of a method that arguments are bound to. -/
def Method.bindable (m : Method) : List MethodParameter :=
  m.parameters.filter (·.passing == .positional)

/-- The formal parameter that a parameter of a method is. -/
def MethodParameter.toFormal (p : MethodParameter) : Formal := .ofType p.name p.type p.default

/-- The arguments give nothing for the parameter at a place of an operation: it takes none of them, and
if its fields stand for it, none of these does. -/
def LeavesOut (formals : List Formal) (arguments : List Argument) (place : Nat) : Prop :=
  match flattened? formals with
  | none => ∃ p, (assign (visible formals) arguments)[place]? = some (p, none)
  | some _ => ∀ slot ∈ assign (visible formals) arguments, slot.2 = none

/-- What a record is made of for which nothing is given: nothing for every required field. -/
def nothingGiven (fields : List FieldDecl) : List (String × Value) :=
  (fields.filter (!·.default.isOptional)).map fun d => (d.name, .null)

/-- A record for which nothing is given: every field holds its default, or nothing. -/
def IsNewRecord (model : String) (fields : List FieldDecl) (v : Value) : Prop :=
  ∃ entries, v = .record model entries ∧ List.Forall₂
    (fun d entry => ∃ held, d.default.heldWith none = .ok held ∧ (d.name, held) = entry) fields entries

section

variable {m : Method} {o : Operation} {p : MethodParameter} {s : Scope} {formals : List Formal}
  {arguments : List Argument} {values : List Value} {f : Formal} {v : Value} {i : Nat}

theorem Method.formals_of_operation? (h : m.operation? = some o) :
    o.formals = m.bindable.map (·.toFormal) := by
  unfold operation? formals? at h
  split at h
  · simp at h
  · obtain rfl : _ = o := by simpa using h
    rfl

/-- A parameter of its own that is left out gets its default. -/
theorem getElem?_of_leavesOut (hf : flattened? formals = none)
    (hb : s.bind formals arguments = .ok values) (hf' : formals[i]? = some f)
    (hl : LeavesOut formals arguments i) : values[i]? = some f.default.shown := by
  rw [LeavesOut, hf] at hl
  obtain ⟨p, hslot⟩ := hl
  have hvisible : (visible formals)[i]? = some f.toParameter := by
    rw [visible, hf, List.getElem?_map, hf', Option.map_some]
  obtain ⟨taken, hslot'⟩ := exists_getElem?_assign hvisible arguments
  obtain ⟨rfl, rfl⟩ : f.toParameter = p ∧ taken = none := by simpa [hslot'] using hslot
  obtain ⟨given, hevaluates, hreceives⟩ := Scope.receives_of_bind hb hslot
  cases hevaluates
  exact hreceives.value hf

/-- Parameters that take nothing come to nothing. -/
theorem bound_of_absent {slots : List Slot} {bound : List (Parameter × Option Value)}
    (h : List.Forall₂ s.Evaluates slots bound) (hnone : ∀ slot ∈ slots, slot.2 = none) :
    bound = (slots.map (·.1)).map fun p => (p, none) := by
  induction h with
  | nil => rfl
  | cons hslot _ ih =>
    rw [ih fun slot hm => hnone slot (List.mem_cons_of_mem _ hm)]
    cases hslot with
    | absent => rfl
    | present => simp at hnone

theorem namedValues_of_absent (fields : List FieldDecl) :
    namedValues (fields.map fun d => (Parameter.ofField d, none)) = nothingGiven fields := by
  induction fields with
  | nil => rfl
  | cons d fields ih =>
    have hoptional : (Parameter.ofField d).isOptional = d.default.isOptional := rfl
    rw [List.map_cons, namedValues_cons, ih, nothingGiven, nothingGiven, Parameter.handsOver, hoptional,
      List.filter_cons]
    cases d.default.isOptional <;> rfl

/-- A record none of whose fields is given is a new one. -/
theorem values_of_leavesOut {model : String} {fields : List FieldDecl}
    (h : f.IsWritableRecord model fields) (hb : s.bind [f] arguments = .ok values)
    (hl : LeavesOut [f] arguments i) : ∃ v, values = [v] ∧
      f.type.makeRecord (nothingGiven fields) = .ok v ∧
      (f.IsPlainRecord model fields → IsNewRecord model fields v) := by
  rw [LeavesOut, h.flattened?] at hl
  obtain ⟨bound, hall, hvalues⟩ := Scope.bind_eq_ok_iff.1 hb
  obtain ⟨v, hmade, rfl⟩ := (callValues_eq_ok_record h.flattened?).1 hvalues
  have hbound : bound = fields.map fun d => (Parameter.ofField d, none) := by
    rw [bound_of_absent hall hl, map_fst_assign, h.visible, h.described, List.map_map]
    rfl
  rw [hbound, namedValues_of_absent] at hmade
  refine ⟨v, rfl, hmade, fun hplain => ?_⟩
  have hfields : (fields.map fun d => (Parameter.ofField d, (none : Option Value))).map (·.1) = f.fields := by
    rw [h.described, List.map_map]
    rfl
  have hentries := hplain.makeRecord_namedValues hfields
  rw [namedValues_of_absent, hmade] at hentries
  split at hentries
  · cases hentries
  · obtain ⟨entries, hmapM, hv⟩ := map_eq_ok_iff.1 hentries.symm
    refine ⟨entries, hv.symm, ?_⟩
    rw [List.mapM_map, mapM_eq_ok_iff] at hmapM
    exact hmapM.imp fun d entry hentry => map_eq_ok_iff.1 hentry

/-- Without arguments everything is left out. -/
theorem leavesOut_nil (h : formals[i]? = some f) : LeavesOut formals [] i := by
  unfold LeavesOut
  rw [assign_nil_arguments]
  split
  · next hf =>
    refine ⟨f.toParameter, ?_⟩
    rw [visible, hf, List.getElem?_map, List.getElem?_map, h]
    rfl
  · intro slot hslot
    obtain ⟨p, -, rfl⟩ := List.mem_map.1 hslot
    rfl

/-- A parameter with a default that is left out gets this default, unless the operation takes one
writable record only: then it gets a new record, whatever the default is, and a plain one holds for each
field what the record has for it by default. A command without arguments leaves all parameters out, and
it can be bound, unless making such a record raises something. -/
theorem omission_exact (ho : m.operation? = some o) (s : Scope) :
    (∀ (arguments : List Argument) (values : List Value) (i : Nat) (p : MethodParameter) (v : Value),
      s.bind o.formals arguments = .ok values → m.bindable[i]? = some p → p.default = .value v →
      LeavesOut o.formals arguments i →
      (o.flattened = none → values[i]? = some v) ∧
      (∀ f, o.flattened = some f → ∃ model fields record, p.toFormal.IsWritableRecord model fields ∧
        values[i]? = some record ∧ p.toFormal.type.makeRecord (nothingGiven fields) = .ok record ∧
        (p.toFormal.IsPlainRecord model fields → IsNewRecord model fields record))) ∧
    ((∃ values, s.bind o.formals [] = .ok values) ∨ ∃ f named e, o.flattened = some f ∧
      (∀ model fields, ¬ f.IsQuietRecord model fields) ∧ f.type.makeRecord named = .error e ∧
      s.bind o.formals [] = .error (.raised e)) ∧
    ∀ (i : Nat) (p : MethodParameter), m.bindable[i]? = some p → LeavesOut o.formals [] i := by
  have hformals := Method.formals_of_operation? ho
  have hformal : ∀ {i : Nat} {p : MethodParameter}, m.bindable[i]? = some p →
      o.formals[i]? = some p.toFormal := by
    intro i p hp
    rw [hformals, List.getElem?_map, hp, Option.map_some]
  refine ⟨fun arguments values i p v hb hp hv hl => ⟨fun hf => ?_, fun f hf => ?_⟩,
    Scope.bind_of_taken fun p a hslot => ?_, fun i p hp => leavesOut_nil (hformal hp)⟩
  · have hshown : p.toFormal.default.shown = v := congrArg Default.shown hv
    rw [getElem?_of_leavesOut hf hb (hformal hp) hl, hshown]
  · obtain ⟨hsingle, hflat⟩ := flattened?_eq_some hf
    have hf' := hformal hp
    rw [hsingle] at hb hl hf'
    -- the only place is the first one
    obtain ⟨rfl, rfl⟩ : i = 0 ∧ f = p.toFormal := by
      cases i with
      | zero => simpa using hf'
      | succ i => simp at hf'
    obtain ⟨model, fields, hrecord⟩ := Formal.isFlattenable_ofType_iff.1 hflat
    obtain ⟨record, rfl, hmade, hnew⟩ := values_of_leavesOut hrecord hb hl
    exact ⟨model, fields, record, hrecord, rfl, hmade, hnew⟩
  · rw [assign_nil_arguments, List.mem_map] at hslot
    obtain ⟨q, -, hq⟩ := hslot
    simp at hq

/-- A method that may be given an item. An item that is not described is tea. -/
def putItem : Method :=
  ⟨"put", true, [⟨"item", .union [.model "shop" "Item" false
    [⟨"name", none, .text, .value (.text "tea"), false⟩] none, .nothing], .value .null, .positional⟩],
    none, fun _ _ w => (.other "None", w)⟩

/-- The operation that `putItem` is. -/
def putItemOperation : Operation :=
  ⟨"put", putItem.bindable.map (·.toFormal), putItem.perform⟩

theorem putItem_isPlainRecord (p : MethodParameter) (hp : putItem.bindable[0]? = some p) {model : String}
    {fields : List FieldDecl} (h : p.toFormal.IsWritableRecord model fields) :
    p.toFormal.IsPlainRecord model fields := by
  obtain rfl := Option.some.inj hp
  obtain ⟨module, own, htype⟩ := h.type
  cases htype
  exact ⟨h, ⟨_, rfl⟩, by decide, by decide⟩

theorem omission_exact_putItem : putItem.operation? = some putItemOperation ∧
    (∃ p, putItem.bindable[0]? = some p ∧ p.default = .value .null) ∧
    LeavesOut putItemOperation.formals [] 0 ∧
    ∃ values, Scope.bind ⟨[], World.bare⟩ putItemOperation.formals [] = .ok values ∧
      ∃ model fields record, values[0]? = some record ∧ IsNewRecord model fields record := by
  have ho : putItem.operation? = some putItemOperation := rfl
  obtain ⟨hleft, -, hnil⟩ := omission_exact ho ⟨[], World.bare⟩
  have hl := hnil 0 _ rfl
  have hb : Scope.bind ⟨[], World.bare⟩ putItemOperation.formals [] =
      .ok [.record "Item" [("name", .text "tea")]] := rfl
  obtain ⟨model, fields, record, hrecord, hvalue, -, hnew⟩ := (hleft [] _ 0 _ _ hb rfl rfl hl).2 _ rfl
  exact ⟨ho, ⟨_, rfl, rfl⟩, hl, _, hb, model, fields, record, hvalue,
    hnew (putItem_isPlainRecord _ rfl hrecord)⟩

/-- An item that is left out is tea, though its default is declared to be nothing. -/
theorem putItem_not_default : ¬ ∀ (m : Method) (o : Operation) (s : Scope)
    (arguments : List Argument) (values : List Value) (i : Nat) (p : MethodParameter) (v : Value),
    m.operation? = some o → s.bind o.formals arguments = .ok values → m.bindable[i]? = some p →
    p.default = .value v → LeavesOut o.formals arguments i → values[i]? = some v := by
  intro hall
  have hl : LeavesOut putItemOperation.formals [] 0 := leavesOut_nil rfl
  have hb : Scope.bind ⟨[], World.bare⟩ putItemOperation.formals [] =
      .ok [.record "Item" [("name", .text "tea")]] := rfl
  have hvalue := hall putItem putItemOperation _ [] _ 0 _ .null rfl hb rfl rfl hl
  simp at hvalue

end

end OperatorConsole
