import OperatorConsole.Proofs.Argument.Delivery
import OperatorConsole.Proofs.Argument.Value

/-!
Records given field by field. A writable record that is the only parameter of an operation is bound
through its fields. They take arguments and are evaluated as they would be if they were the parameters
of the operation, so that binding sends the same requests and fails with every fault that it would fail
with then. What differs is what is left out, which is decided by the fields of the new record and not by
defaults of parameters, and that making the record may raise something of its own.
-/
namespace OperatorConsole

/-! ### Writable records -/

/-- The parameters of an operation that has the fields of a record as parameters of their own. -/
def Formal.apart (f : Formal) : List Formal := f.fields.map fun p => ⟨p, []⟩

section

variable {f : Formal} {model name : String} {type : DeclaredType} {default : Default}
  {fields : List FieldDecl}

theorem DeclaredType.exists_of_writableFields_ne_nil (h : type.writableFields ≠ []) :
    ∃ module model fields own, type = .model module model false fields own ∧
      (∀ d ∈ fields, d.frozen = false) ∧ type.writableFields = fields := by
  unfold writableFields at h
  split at h
  · next module model fields own =>
    split at h
    · exact absurd rfl h
    · next hfrozen =>
      refine ⟨module, model, fields, own, rfl, by simpa using hfrozen, ?_⟩
      rw [writableFields, if_neg hfrozen]
  · exact absurd rfl h

/-- Parameters as they are declared can be given field by field exactly if they are writable records. -/
theorem Formal.isFlattenable_ofType_iff : (Formal.ofType name type default).isFlattenable = true ↔
    ∃ model fields, (Formal.ofType name type default).IsWritableRecord model fields := by
  have hfields : (Formal.ofType name type default).fields =
      (Formal.ofType name type default).type.writableFields.map Parameter.ofField := rfl
  rw [isFlattenable, Bool.not_eq_true', List.isEmpty_eq_false_iff, hfields, ne_eq,
    List.map_eq_nil_iff]
  constructor
  · intro h
    obtain ⟨module, model, fields, own, htype, hwritable, hall⟩ :=
      DeclaredType.exists_of_writableFields_ne_nil h
    exact ⟨model, fields, ⟨module, own, htype⟩, hall ▸ h, hwritable, by rw [hfields, hall]⟩
  · rintro ⟨model, fields, hf⟩
    have hmap := hf.described
    rw [hfields] at hmap
    rw [← List.map_eq_nil_iff (f := Parameter.ofField), hmap, List.map_eq_nil_iff]
    exact hf.nonempty

/-- Fields that are parameters of their own are not flattened once more. -/
theorem Formal.flattened?_apart (f : Formal) : flattened? f.apart = none := by
  unfold apart
  cases f.fields with
  | nil => rfl
  | cons p rest => cases rest <;> rfl

theorem Formal.visible_apart (f : Formal) : visible f.apart = f.fields := by
  rw [visible, f.flattened?_apart, apart, List.map_map]
  exact List.map_id _

end

/-! ### New records -/

/-- What a record is made of: the values of the fields that took an argument, and nothing for the required
ones that took none; `values` are what parameters in the places of the fields would have received. -/
def handedOver (slots : List Slot) (values : List Value) : List (String × Value) :=
  (slots.zip values).filterMap fun x =>
    (x.1.1.handsOver (x.1.2.map fun _ => x.2)).map (x.1.1.name, ·)

/-- What a field of a new record holds if it took `taken` and a parameter in its place would have
received `v`. -/
inductive FieldHolds (d : FieldDecl) : Option Argument → Value → Value → Prop where
  | given (a : Argument) (v : Value) : FieldHolds d (some a) v v
  | required (v : Value) (h : d.default = .required) : FieldHolds d none v .null
  /-- The record has a default for the field, or builds one. -/
  | optional (v : Value) {w : Value} (h : d.default = .value w ∨ d.default = .fresh (.ok w)) :
      FieldHolds d none v w

/-- The entries of a new record, one for each of its fields: `slots` are what the fields took and
`values` what parameters in their places would have received. -/
structure IsRecordOf (fields : List FieldDecl) (slots : List Slot) (values : List Value)
    (entries : List (String × Value)) : Prop where
  length : entries.length = fields.length
  holds : ∀ (i : Nat) (d : FieldDecl), fields[i]? = some d →
    ∃ (taken : Option Argument) (v held : Value), slots[i]? = some (Parameter.ofField d, taken) ∧
      values[i]? = some v ∧ entries[i]? = some (d.name, held) ∧ FieldHolds d taken v held

/-- What a plain record comes to. It is refused if a value is handed over under the name of what makes
records, or if a default fails to be built; otherwise it holds what its fields are given. -/
inductive PlainResult (model : String) (fields : List FieldDecl) (slots : List Slot)
    (values : List Value) : Except BindingFault (List Value) → Prop where
  | twice (h : ∃ v, (receiverOfRecord, v) ∈ handedOver slots values) :
      PlainResult model fields slots values (.error (.raised receiverTwice))
  | unbuilt {d : FieldDecl} {e : Raised} (h : ∀ v, (receiverOfRecord, v) ∉ handedOver slots values)
      (hslot : (Parameter.ofField d, none) ∈ slots) (hd : d.default = .fresh (.error e)) :
      PlainResult model fields slots values (.error (.raised e))
  | made {entries : List (String × Value)}
      (h : ∀ v, (receiverOfRecord, v) ∉ handedOver slots values)
      (hentries : IsRecordOf fields slots values entries) :
      PlainResult model fields slots values (.ok [.record model entries])

section

variable {s : Scope} {f : Formal} {model : String} {fields : List FieldDecl} {d : FieldDecl}
  {arguments : List Argument} {bound : List (Parameter × Option Value)} {slots : List Slot}

/-- What is handed over is said by what parameters in the places of the fields would have received. -/
theorem handedOver_of_evaluates (h : List.Forall₂ s.Evaluates slots bound) :
    handedOver slots (bound.map callValue) = namedValues bound := by
  induction h with
  | nil => rfl
  | @cons slot b slots bound hslot _ ih =>
    have hgiven : slot.1.handsOver (slot.2.map fun _ => callValue b) = b.1.handsOver b.2 := by
      cases hslot <;> rfl
    have hname : slot.1.name = b.1.name := congrArg Parameter.name hslot.fst.symm
    rw [handedOver] at ih ⊢
    rw [List.map_cons, List.zip_cons_cons, List.filterMap_cons, namedValues_cons, ih]
    simp only [hgiven, hname]
    cases b.1.handsOver b.2 <;> rfl

theorem fieldHolds_of_heldWith {taken : Option Argument} {b : Parameter × Option Value} {held : Value}
    (h : s.Evaluates (Parameter.ofField d, taken) b) (hheld : d.default.heldWith b.2 = .ok held) :
    FieldHolds d taken (callValue b) held := by
  cases h with
  | present hv =>
    obtain rfl := Except.ok.inj hheld
    exact .given _ _
  | absent =>
    cases hd : d.default with
    | required =>
      rw [hd] at hheld
      obtain rfl := Except.ok.inj hheld
      exact .required _ hd
    | value w =>
      rw [hd] at hheld
      obtain rfl := Except.ok.inj hheld
      exact .optional _ (.inl hd)
    | fresh made =>
      rw [hd] at hheld
      exact .optional _ (.inr (hd.trans (congrArg Default.fresh hheld)))

/-- What the fields come to is a new record. -/
theorem isRecordOf_of_evaluates {entries : List (String × Value)}
    (h : List.Forall₂ s.Evaluates (assign (fields.map Parameter.ofField) arguments) bound)
    (hentries : bound.mapM newField = .ok entries) :
    IsRecordOf fields (assign (fields.map Parameter.ofField) arguments) (bound.map callValue)
      entries where
  length := by
    rw [← (mapM_eq_ok_iff.1 hentries).length_eq, ← h.length_eq, length_assign, List.length_map]
  holds i d hd := by
    have hp : (fields.map Parameter.ofField)[i]? = some (Parameter.ofField d) := by
      rw [List.getElem?_map, hd, Option.map_some]
    obtain ⟨taken, hslot⟩ := exists_getElem?_assign hp arguments
    obtain ⟨b, hb, hevaluates⟩ := exists_getElem?_of_forall₂ h hslot
    obtain ⟨entry, hentry, hnew⟩ := exists_getElem?_of_forall₂ (mapM_eq_ok_iff.1 hentries) hb
    obtain ⟨held, hheld, rfl⟩ := map_eq_ok_iff.1 hnew
    have hfst : b.1 = Parameter.ofField d := hevaluates.fst
    rw [hfst] at hheld hentry
    exact ⟨taken, callValue b, held, hslot, by simp [hb], hentry,
      fieldHolds_of_heldWith hevaluates hheld⟩

/-- A field that fails to be built took nothing, and its default is what fails. -/
theorem unbuilt_of_newField {slot : Slot} {b : Parameter × Option Value} {e : Raised}
    (h : s.Evaluates slot b) (hnew : newField b = .error e) :
    slot.2 = none ∧ slot.1.default = .fresh (.error e) := by
  have hheld : b.1.default.heldWith b.2 = .error e := map_eq_error_iff.1 hnew
  cases h with
  | present hv => simp [Default.heldWith] at hheld
  | absent p =>
    refine ⟨rfl, ?_⟩
    cases hd : p.default with
    | required => simp [hd, Default.heldWith, Default.build] at hheld
    | value w => simp [hd, Default.heldWith, Default.build] at hheld
    | fresh made => simpa [hd, Default.heldWith, Default.build] using hheld

theorem plainResult_of_evaluates (h : f.IsPlainRecord model fields)
    (hall : List.Forall₂ s.Evaluates (assign f.fields arguments) bound) :
    PlainResult model fields (assign f.fields arguments) (bound.map callValue)
      (callValues [f] bound) := by
  have hbound : bound.map (·.1) = f.fields := by rw [Scope.map_fst_of_evaluates hall, map_fst_assign]
  have hnamed := handedOver_of_evaluates hall
  rw [callValues_of_record h.flattened?, h.makeRecord_namedValues hbound]
  split
  · next htwice =>
    obtain ⟨⟨name, v⟩, hx, hname⟩ := List.any_eq_true.1 htwice
    obtain rfl : name = receiverOfRecord := eq_of_beq hname
    exact .twice ⟨v, hnamed ▸ hx⟩
  · next hfree =>
    have hfree : ∀ v, (receiverOfRecord, v) ∉ handedOver (assign f.fields arguments)
        (bound.map callValue) := by
      intro v hx
      exact hfree (List.any_eq_true.2 ⟨_, hnamed ▸ hx, by simp⟩)
    cases hentries : bound.mapM newField with
    | ok entries =>
      refine .made hfree ?_
      rw [h.described] at hall ⊢
      exact isRecordOf_of_evaluates hall hentries
    | error e =>
      obtain ⟨before, b, after, _, rfl, -, hb⟩ := mapM_eq_error_iff.1 hentries
      obtain ⟨i, hi⟩ := List.getElem?_of_mem (l := before ++ b :: after) (by simp : b ∈ _)
      obtain ⟨⟨p, taken⟩, hslot, hevaluates⟩ := exists_getElem?_of_forall₂ hall.flip hi
      obtain ⟨rfl, hdefault⟩ : taken = none ∧ p.default = .fresh (.error e) :=
        unbuilt_of_newField hevaluates hb
      have hmem := List.mem_of_getElem? hslot
      have hp : p ∈ f.fields := by
        rw [← map_fst_assign f.fields arguments]
        exact List.mem_map_of_mem (f := (·.1)) hmem
      rw [h.described] at hp
      obtain ⟨d, -, rfl⟩ := List.mem_map.1 hp
      exact .unbuilt hfree hmem hdefault

/-- Binding a single writable record is binding its fields as parameters, and making the record. Every
fault of the fields is one of the record, and the same requests are sent. If the fields can be bound, the
operation gets the one record that is made of what they hand over, or binding fails with what making it
raises. A plain record holds, for every field that takes an argument, its value, and otherwise what the
record has for it by default, or nothing. -/
theorem bind_writable_record (h : f.IsWritableRecord model fields) (s : Scope)
    (arguments : List Argument) :
    (∀ fault, s.bind [f] arguments = .error fault ↔ s.bind f.apart arguments = .error fault ∨
      ∃ values e, s.bind f.apart arguments = .ok values ∧ fault = .raised e ∧
        f.type.makeRecord (handedOver (assign (visible f.apart) arguments) values) = .error e) ∧
    (∀ record, s.bind [f] arguments = .ok record ↔ ∃ values v,
      s.bind f.apart arguments = .ok values ∧ record = [v] ∧
        f.type.makeRecord (handedOver (assign (visible f.apart) arguments) values) = .ok v) ∧
    (f.IsPlainRecord model fields → ∀ values, s.bind f.apart arguments = .ok values →
      PlainResult model fields (assign (visible f.apart) arguments) values (s.bind [f] arguments)) ∧
    s.sentByBind [f] arguments = s.sentByBind f.apart arguments := by
  have hvisible : visible [f] = visible f.apart := by rw [h.visible, f.visible_apart]
  have hfields : visible f.apart = f.fields := f.visible_apart
  -- either the fields cannot be bound, and then for either operation alike, or they come to `bound`
  cases hevaluate : s.evaluate (assign (visible f.apart) arguments) with
  | error fault' =>
    have hrecord : s.bind [f] arguments = .error fault' := by
      rw [Scope.bind, hvisible, hevaluate, error_bind]
    have hapart : s.bind f.apart arguments = .error fault' := by
      rw [Scope.bind, hevaluate, error_bind]
    refine ⟨fun fault => ?_, fun record => ?_, fun _ values hvalues => ?_, ?_⟩
    · simp [hrecord, hapart]
    · simp [hrecord, hapart]
    · simp [hapart] at hvalues
    · rw [Scope.sentByBind, Scope.sentByBind, hvisible]
  | ok bound =>
    have hall := Scope.evaluate_eq_ok_iff.1 hevaluate
    have hrecord : s.bind [f] arguments = callValues [f] bound := by
      rw [Scope.bind, hvisible, hevaluate, ok_bind]
    have hapart : s.bind f.apart arguments = .ok (bound.map callValue) := by
      rw [Scope.bind, hevaluate, ok_bind, callValues_of_apart f.flattened?_apart]
    have hnamed := handedOver_of_evaluates hall
    refine ⟨fun fault => ?_, fun record => ?_, fun hplain values hvalues => ?_, ?_⟩
    · rw [hrecord, callValues_of_record h.flattened?, mapError_eq_error_iff, hapart, ← hnamed]
      simp only [map_eq_error_iff]
      constructor
      · rintro ⟨e, he, rfl⟩
        exact .inr ⟨_, e, rfl, rfl, he⟩
      · rintro (hfault | ⟨values, e, hvalues, rfl, he⟩)
        · cases hfault
        · exact ⟨e, Except.ok.inj hvalues ▸ he, rfl⟩
    · rw [hrecord, callValues_eq_ok_record h.flattened?, hapart]
      simp [hnamed, and_comm]
    · obtain rfl : bound.map callValue = values := Except.ok.inj (hapart.symm.trans hvalues)
      rw [hrecord, hfields]
      exact plainResult_of_evaluates hplain (hfields ▸ hall)
    · rw [Scope.sentByBind, Scope.sentByBind, hvisible]

/-- An order: what is ordered is required, how many is a default, and marks are built anew. -/
def orderFields : List FieldDecl :=
  [⟨"item", none, .text, .required, false⟩, ⟨"count", none, .whole, .value (.int 1), false⟩,
    ⟨"marks", none, .list .text, .fresh (.ok (.list [])), false⟩]

/-- The parameter of an operation that takes an order. -/
def orderFormal : Formal := .ofType "body" (.model "shop" "Order" false orderFields none) .required

theorem orderFormal_isPlainRecord : orderFormal.IsPlainRecord "Order" orderFields where
  type := ⟨"shop", none, rfl⟩
  nonempty := by simp [orderFields]
  writable := by decide
  described := rfl
  plain := ⟨"shop", rfl⟩
  distinct := by decide
  apart := by decide

theorem bind_writable_record_order : orderFormal.IsWritableRecord "Order" orderFields ∧
    (∃ entries, Scope.bind ⟨[], World.bare⟩ [orderFormal] [⟨.plain, "item", "tea"⟩] =
      .ok [.record "Order" entries] ∧ IsRecordOf orderFields
        (assign (visible orderFormal.apart) [⟨.plain, "item", "tea"⟩])
        [.text "tea", .int 1, .null] entries) ∧
    Scope.bind ⟨[], World.bare⟩ [orderFormal] [⟨.reference, "", "tea"⟩] =
      .error (.undefined "tea") := by
  have hplain := orderFormal_isPlainRecord
  have hrecord := bind_writable_record hplain.toIsWritableRecord ⟨[], World.bare⟩
  refine ⟨hplain.toIsWritableRecord, ?_, ((hrecord [⟨.reference, "", "tea"⟩]).1 _).2 (.inl rfl)⟩
  have hresult := (hrecord [⟨.plain, "item", "tea"⟩]).2.2.1 hplain _ rfl
  generalize hbind : Scope.bind ⟨[], World.bare⟩ [orderFormal] [⟨.plain, "item", "tea"⟩] = result
    at hresult
  cases hresult with
  | made _ hentries => exact ⟨_, rfl, hentries⟩
  | twice | unbuilt => cases hbind

/-- A record with a field that has the name of what makes records. -/
def classFormal : Formal :=
  .ofType "item" (.model "shop" "Item" false [⟨"cls", none, .text, .required, false⟩] none) .required

/-- Such a record cannot be given field by field, though its field could be given as a parameter. -/
theorem class_field_refused : ¬ ∀ (f : Formal) (model : String) (fields : List FieldDecl) (s : Scope)
    (arguments : List Argument) (values : List Value), f.IsWritableRecord model fields →
    s.bind f.apart arguments = .ok values → ∃ entries, s.bind [f] arguments =
      .ok [.record model entries] ∧
      IsRecordOf fields (assign (visible f.apart) arguments) values entries := by
  intro hall
  have hrecord : classFormal.IsWritableRecord "Item" [⟨"cls", none, .text, .required, false⟩] :=
    ⟨⟨"shop", none, rfl⟩, by simp, by decide, rfl⟩
  obtain ⟨entries, hbind, -⟩ := hall _ _ _ ⟨[], World.bare⟩ [⟨.plain, "", "x"⟩] _ hrecord rfl
  cases hbind

end

end OperatorConsole
