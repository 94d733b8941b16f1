import OperatorConsole.Proofs.Argument.Evaluation
import OperatorConsole.Proofs.Keyed

/-!
What an operation receives. Every parameter that the operator sees has a place: that of a value of the
call or, when one record stands for all of them, that of a field of this record. A parameter of its own
receives the value of the argument that it took, or else its default. A record is made of named values:
those of the arguments that its fields took, and nothing for the required fields that took none. If the
module of the record does not interfere, each field holds its value, or else what the record has for it.
-/
namespace OperatorConsole

section

variable {α β : Type} {R : α → β → Prop} {a : α}

theorem exists_getElem?_of_forall₂ {l : List α} {l' : List β} (h : List.Forall₂ R l l') {i : Nat}
    (ha : l[i]? = some a) : ∃ b, l'[i]? = some b ∧ R a b := by
  induction h generalizing i with
  | nil => simp at ha
  | @cons x y l l' hxy _ ih =>
    cases i with
    | zero =>
      obtain rfl : x = a := by simpa using ha
      exact ⟨y, rfl, hxy⟩
    | succ i => exact ih ha

theorem exists_forall₂ : ∀ {l : List α}, (∀ a ∈ l, ∃ b, R a b) → ∃ l', List.Forall₂ R l l'
  | [], _ => ⟨[], .nil⟩
  | a :: l, h => by
    obtain ⟨b, hb⟩ := h a List.mem_cons_self
    obtain ⟨l', hl⟩ := exists_forall₂ fun c hc => h c (List.mem_cons_of_mem a hc)
    exact ⟨b :: l', .cons hb hl⟩

end

/-! ### Slots -/

theorem map_fst_assign : ∀ (ps : List Parameter) (arguments : List Argument),
    (assign ps arguments).map (·.1) = ps
  | [], _ => rfl
  | p :: ps, arguments => by
    rw [assign, List.map_cons, map_fst_assign ps]

theorem length_assign (ps : List Parameter) (arguments : List Argument) :
    (assign ps arguments).length = ps.length := by
  rw [← List.length_map (·.1), map_fst_assign]

/-- The slot at a place is that of the parameter at this place. -/
theorem exists_getElem?_assign {ps : List Parameter} {p : Parameter} {i : Nat}
    (h : ps[i]? = some p) (arguments : List Argument) :
    ∃ taken, (assign ps arguments)[i]? = some (p, taken) := by
  have hlen : i < (assign ps arguments).length := by
    rw [length_assign]
    exact (List.getElem?_eq_some_iff.1 h).1
  have hp : ((assign ps arguments).map (·.1))[i]? = some p := by rw [map_fst_assign, h]
  rw [List.getElem?_map, List.getElem?_eq_getElem hlen, Option.map_some, Option.some_inj] at hp
  exact ⟨_, by rw [List.getElem?_eq_getElem hlen, ← hp]⟩

/-- Without arguments there is nothing to take. -/
theorem assign_nil_arguments : ∀ ps : List Parameter, assign ps [] = ps.map fun p => (p, none)
  | [] => rfl
  | p :: ps => congrArg ((p, none) :: ·) (assign_nil_arguments ps)

/-! ### Records that stand for parameters -/

/-- The parameter is a record of which every field can be written; `fields` are its fields. -/
structure Formal.IsWritableRecord (f : Formal) (model : String) (fields : List FieldDecl) : Prop where
  type : ∃ module own, f.type = .model module model false fields own
  nonempty : fields ≠ []
  writable : ∀ d ∈ fields, d.frozen = false
  described : f.fields = fields.map Parameter.ofField

/-- A writable record of which its module says nothing else, and whose fields are not taken for each
other. -/
structure Formal.IsPlainRecord (f : Formal) (model : String) (fields : List FieldDecl) : Prop
    extends f.IsWritableRecord model fields where
  plain : ∃ module, f.type = .model module model false fields none
  distinct : (fields.map (·.name)).Nodup
  apart : ∀ d ∈ fields, ∀ e ∈ fields, d.otherName = some e.name → e.name = d.name

/-- A plain record that can always be made: no field has the name of what makes it, and no default
fails to be built. -/
structure Formal.IsQuietRecord (f : Formal) (model : String) (fields : List FieldDecl) : Prop
    extends f.IsPlainRecord model fields where
  free : ∀ d ∈ fields, d.name ≠ receiverOfRecord
  built : ∀ d ∈ fields, ∀ e, d.default ≠ .fresh (.error e)

section

variable {f : Formal} {formals : List Formal} {model : String} {fields : List FieldDecl}

theorem flattened?_eq_some (h : flattened? formals = some f) :
    formals = [f] ∧ f.isFlattenable = true := by
  unfold flattened? at h
  split at h
  · next g =>
    split at h
    · next hg =>
      obtain rfl : g = f := by simpa using h
      exact ⟨rfl, hg⟩
    · simp at h
  · simp at h

theorem visible_of_flattened? (h : flattened? formals = some f) : visible formals = f.fields := by
  rw [visible, h]

namespace Formal.IsWritableRecord

variable (h : f.IsWritableRecord model fields)

include h

theorem flattened? : flattened? [f] = some f := by
  have hfields : f.fields ≠ [] := by
    rw [h.described, ne_eq, List.map_eq_nil_iff]
    exact h.nonempty
  rw [OperatorConsole.flattened?, isFlattenable, List.isEmpty_eq_false_iff.2 hfields]
  rfl

theorem visible : visible [f] = f.fields := visible_of_flattened? h.flattened?

end Formal.IsWritableRecord

end

/-! ### Named values -/

/-- What a record is made of under the name of a field: the value that is given, or nothing if the field
is left out and has no default. -/
def Parameter.handsOver (p : Parameter) (given : Option Value) : Option Value :=
  given.or (if p.isOptional then none else some .null)

/-- What a field holds in a new record: the value that is given, or its default, or nothing. -/
def Default.heldWith (default : Default) : Option Value → Except Raised Value
  | some v => .ok v
  | none => default.build.getD (.ok .null)

/-- A field of a new record. -/
def newField (b : Parameter × Option Value) : Except Raised (String × Value) :=
  (b.1.default.heldWith b.2).map (b.1.name, ·)

section

variable {p : Parameter} {given : Option Value} {b : Parameter × Option Value}
  {bound : List (Parameter × Option Value)}

theorem namedValues_cons : namedValues (b :: bound) =
    ((b.1.handsOver b.2).map (b.1.name, ·)).toList ++ namedValues bound := by
  obtain ⟨p, _ | v⟩ := b
  · cases h : p.isOptional <;> simp [namedValues, Parameter.handsOver, h]
  · simp [namedValues, Parameter.handsOver]

theorem mem_namedValues {x : String × Value} : x ∈ namedValues bound ↔
    ∃ b ∈ bound, b.1.name = x.1 ∧ b.1.handsOver b.2 = some x.2 := by
  obtain ⟨name, v⟩ := x
  induction bound with
  | nil => simp [namedValues]
  | cons b bound ih =>
    rw [namedValues_cons, List.mem_append, ih]
    simp [and_comm]

/-- Fields of different names are found in the values by their names. -/
theorem lookup_namedValues (hd : (bound.map (·.1.name)).Nodup) (hb : b ∈ bound) :
    (namedValues bound).lookup b.1.name = b.1.handsOver b.2 := by
  induction bound with
  | nil => cases hb
  | cons c bound ih =>
    obtain ⟨hnot, hd⟩ := List.nodup_cons.1 hd
    rw [namedValues_cons]
    rcases List.mem_cons.1 hb with rfl | hb
    · have hnone : (namedValues bound).lookup b.1.name = none := by
        rw [← Option.not_isSome_iff_eq_none, Keyed.isSome_lookup, List.any_eq_true]
        rintro ⟨x, hx, hname⟩
        obtain ⟨c, hc, hcx, -⟩ := mem_namedValues.1 hx
        exact hnot (List.mem_map.2 ⟨c, hc, hcx.trans (eq_of_beq hname)⟩)
      cases h : b.1.handsOver b.2 <;> simp [hnone]
    · have hne : b.1.name ≠ c.1.name := fun e => hnot (List.mem_map.2 ⟨b, hb, e⟩)
      rw [← ih hd hb]
      cases c.1.handsOver c.2 with
      | none => rfl
      | some v => simp [Keyed.lookup_cons, hne]

/-- A field that something is handed over for holds it. -/
theorem newField_of_handsOver {v : Value} (h : p.handsOver given = some v) :
    newField (p, given) = .ok (p.name, v) := by
  cases given with
  | some w =>
    obtain rfl : w = v := by simpa [Parameter.handsOver] using h
    rfl
  | none =>
    cases hd : p.default with
    | required =>
      obtain rfl : Value.null = v := by
        simpa [Parameter.handsOver, Parameter.isOptional, Default.isOptional, hd] using h
      simp [newField, Default.heldWith, Default.build, hd, Except.map]
    | value w => simp [Parameter.handsOver, Parameter.isOptional, Default.isOptional, hd] at h
    | fresh made => simp [Parameter.handsOver, Parameter.isOptional, Default.isOptional, hd] at h

/-- A field that nothing is handed over for is built. -/
theorem exists_build_of_handsOver (h : p.handsOver given = none) : ∃ made,
    p.default.build = some made ∧ newField (p, given) = made.map (p.name, ·) := by
  cases given with
  | some w => simp [Parameter.handsOver] at h
  | none =>
    cases hd : p.default with
    | required => simp [Parameter.handsOver, Parameter.isOptional, Default.isOptional, hd] at h
    | value w => exact ⟨.ok w, rfl, by simp [newField, Default.heldWith, Default.build, hd]⟩
    | fresh made => exact ⟨made, rfl, by simp [newField, Default.heldWith, Default.build, hd]⟩

end

/-! ### Making records -/

section

variable {f : Formal} {model : String} {fields : List FieldDecl}
  {bound : List (Parameter × Option Value)} {values named : List (String × Value)}

/-- A field is looked for under its own name only, if nothing is under its other one. -/
theorem findSome?_keys {d : FieldDecl}
    (h : ∀ other, d.otherName = some other → other ≠ d.name → values.lookup other = none) :
    ((d.otherName.toList ++ [d.name]).findSome? fun key => (values.lookup key).map (key, ·)) =
      (values.lookup d.name).map (d.name, ·) := by
  cases hother : d.otherName with
  | none => simp
  | some other =>
    by_cases hname : other = d.name
    · subst hname
      cases hv : values.lookup d.name <;> simp [hv]
    · simp [h other hother hname]

/-- Fields that are not taken for each other are built one by one. -/
theorem fieldValues_eq_mapM : ∀ {fields : List FieldDecl} {bound : List (Parameter × Option Value)}
    {values : List (String × Value)}, bound.map (·.1) = fields.map Parameter.ofField →
    (fields.map (·.name)).Nodup →
    (∀ b ∈ bound, values.lookup b.1.name = b.1.handsOver b.2) →
    (∀ d ∈ fields, ∀ other, d.otherName = some other → other ≠ d.name → values.lookup other = none) →
    fieldValues fields values = bound.mapM newField
  | [], [], _, _, _, _, _ => rfl
  | [], _ :: _, _, hb, _, _, _ => by simp at hb
  | _ :: _, [], _, hb, _, _, _ => by simp at hb
  | d :: fields, (p, given) :: bound, values, hb, hd, hvalues, hapart => by
    obtain ⟨rfl, hrest⟩ : p = Parameter.ofField d ∧ bound.map (·.1) = fields.map Parameter.ofField := by
      simpa using hb
    obtain ⟨hnot, hd⟩ := List.nodup_cons.1 hd
    have hself := hvalues (Parameter.ofField d, given) List.mem_cons_self
    have hkeys := findSome?_keys (hapart d List.mem_cons_self)
    have hothers : ∀ b ∈ bound, b.1.name ≠ d.name := by
      intro b hmem e
      have hfst : b.1 ∈ fields.map Parameter.ofField :=
        hrest ▸ List.mem_map_of_mem (f := fun b : Parameter × Option Value => b.1) hmem
      obtain ⟨c, hc, hcb⟩ := List.mem_map.1 hfst
      exact hnot (List.mem_map.2 ⟨c, hc, (congrArg Parameter.name hcb).trans e⟩)
    have ih : ∀ left : List (String × Value),
        (∀ key, left.lookup key = if key = d.name then none else values.lookup key) →
        fieldValues fields left = bound.mapM newField := by
      intro left hleft
      refine fieldValues_eq_mapM hrest hd (fun b hmem => ?_) fun c hc other hother hne => ?_
      · rw [hleft, if_neg (hothers b hmem), hvalues b (List.mem_cons_of_mem _ hmem)]
      · rw [hleft, hapart c (List.mem_cons_of_mem d hc) other hother hne, ite_self]
    rw [mapM_cons_except, fieldValues, hkeys]
    cases hheld : (Parameter.ofField d).handsOver given with
    | some v =>
      -- a value is handed over, and no other field finds it
      have hnew : newField (Parameter.ofField d, given) = .ok (d.name, v) :=
        newField_of_handsOver hheld
      have hfound : values.lookup d.name = some v := hself.trans hheld
      rw [hfound, hnew]
      simp only [Option.map_some]
      rw [ih _ fun key => Keyed.lookup_filter_ne d.name values]
      cases bound.mapM newField <;> rfl
    | none =>
      obtain ⟨made, hmade, hnew⟩ := exists_build_of_handsOver hheld
      have hfound : values.lookup d.name = none := hself.trans hheld
      have hbuild : d.default.build = some made := hmade
      have hleft := ih values fun key => by
        split
        · next hkey => rw [hkey, hfound]
        · rfl
      rw [hfound, hnew]
      simp only [Option.map_none, hbuild, hleft]
      cases made <;> cases bound.mapM newField <;> rfl

namespace Formal.IsPlainRecord

variable (h : f.IsPlainRecord model fields)

include h

theorem nodup_bound (hbound : bound.map (·.1) = f.fields) : (bound.map (·.1.name)).Nodup := by
  have hnames : bound.map (·.1.name) = fields.map (·.name) := by
    have hmap := congrArg (List.map Parameter.name) (hbound.trans h.described)
    rw [List.map_map, List.map_map] at hmap
    exact hmap
  exact hnames ▸ h.distinct

/-- A plain record is made of its fields one by one, unless a value is handed over under the name of what
makes records. -/
theorem makeRecord_namedValues (hbound : bound.map (·.1) = f.fields) :
    f.type.makeRecord (namedValues bound) =
      if (namedValues bound).any (·.1 == receiverOfRecord) then .error receiverTwice
      else (bound.mapM newField).map (.record model) := by
  obtain ⟨module, htype⟩ := h.plain
  have hfst : bound.map (·.1) = fields.map Parameter.ofField := hbound.trans h.described
  have hfields : fieldValues fields (namedValues bound) = bound.mapM newField := by
    refine fieldValues_eq_mapM hfst h.distinct
      (fun b hb => lookup_namedValues (h.nodup_bound hbound) hb) fun d hd other hother hne => ?_
    -- whatever is handed over under the other name would be for a field of this name
    rw [← Option.not_isSome_iff_eq_none, Keyed.isSome_lookup, List.any_eq_true]
    rintro ⟨x, hx, hname⟩
    obtain ⟨b, hb, hbx, -⟩ := mem_namedValues.1 hx
    have hmem : b.1 ∈ fields.map Parameter.ofField :=
      hfst ▸ List.mem_map_of_mem (f := fun b : Parameter × Option Value => b.1) hb
    obtain ⟨e, he, heb⟩ := List.mem_map.1 hmem
    have hname : e.name = other := (congrArg Parameter.name heb).trans (hbx.trans (eq_of_beq hname))
    exact hne (hname ▸ h.apart d hd e he (hname ▸ hother))
  rw [htype, DeclaredType.makeRecord, hfields]

end Formal.IsPlainRecord

/-- Nothing is raised when a quiet record is made. -/
theorem Formal.IsQuietRecord.exists_makeRecord (h : f.IsQuietRecord model fields)
    (hbound : bound.map (·.1) = f.fields) :
    ∃ entries, f.type.makeRecord (namedValues bound) = .ok (.record model entries) := by
  have hfst : bound.map (·.1) = fields.map Parameter.ofField := hbound.trans h.described
  have hdecl : ∀ b ∈ bound, ∃ d ∈ fields, Parameter.ofField d = b.1 := fun b hb =>
    List.mem_map.1 (hfst ▸ List.mem_map_of_mem (f := fun b : Parameter × Option Value => b.1) hb)
  have hfree : (namedValues bound).any (·.1 == receiverOfRecord) = false := by
    rw [List.any_eq_false]
    intro x hx hname
    obtain ⟨b, hb, hbx, -⟩ := mem_namedValues.1 hx
    obtain ⟨d, hd, hdb⟩ := hdecl b hb
    exact h.free d hd ((congrArg Parameter.name hdb).trans (hbx.trans (eq_of_beq hname)))
  have hbuilt : ∀ b ∈ bound, ∃ entry, newField b = .ok entry := by
    rintro ⟨p, given⟩ hb
    obtain ⟨d, hd, hdp : Parameter.ofField d = p⟩ := hdecl _ hb
    cases hheld : p.handsOver given with
    | some v => exact ⟨_, newField_of_handsOver hheld⟩
    | none =>
      obtain ⟨made, hmade, hnew⟩ := exists_build_of_handsOver hheld
      cases made with
      | ok v => exact ⟨_, hnew⟩
      | error e =>
        have hdefault : d.default = p.default := congrArg Parameter.default hdp
        cases hp : p.default with
        | required => simp [hp, Default.build] at hmade
        | value w => simp [hp, Default.build] at hmade
        | fresh made =>
          obtain rfl : made = .error e := by simpa [hp, Default.build] using hmade
          exact absurd (hdefault.trans hp) (h.built d hd e)
  obtain ⟨entries, hentries⟩ := exists_forall₂ hbuilt
  refine ⟨entries, ?_⟩
  rw [h.makeRecord_namedValues hbound, hfree, mapM_eq_ok_iff.2 hentries]
  rfl

end

/-! ### Places -/

/-- What the values of a call have for the parameter at a place that the operator sees; `given` is the
value of the argument that the parameter took, if it took one. -/
structure Receives (formals : List Formal) (values : List Value) (place : Nat) (p : Parameter)
    (given : Option Value) : Prop where
  /-- A parameter of its own has the given value or its default. -/
  value : flattened? formals = none → values[place]? = some (given.getD p.default.shown)
  /-- One record in place of all is made of named values, among them what the parameter hands over. -/
  record : ∀ f, flattened? formals = some f → (f.fields.map (·.name)).Nodup → ∃ named v,
    f.type.makeRecord named = .ok v ∧ values = [v] ∧ named.lookup p.name = p.handsOver given
  /-- In a plain record the field at the place holds the given value or what the record has for it. -/
  field : ∀ f model fields, flattened? formals = some f → f.IsPlainRecord model fields →
    ∃ entries held, values = [.record model entries] ∧ entries[place]? = some (p.name, held) ∧
      p.default.heldWith given = .ok held

section

variable {s : Scope} {formals : List Formal} {arguments : List Argument} {values : List Value}
  {bound : List (Parameter × Option Value)} {p : Parameter} {a : Argument} {taken : Option Argument}
  {given : Option Value} {i : Nat}

theorem callValues_of_apart (h : flattened? formals = none) :
    callValues formals bound = .ok (bound.map callValue) := by
  rw [callValues, h]

theorem callValues_of_record {f : Formal} (h : flattened? formals = some f) : callValues formals bound =
    ((f.type.makeRecord (namedValues bound)).map ([·])).mapError .raised := by
  rw [callValues, h]

theorem callValues_eq_ok_record {f : Formal} (h : flattened? formals = some f) :
    callValues formals bound = .ok values ↔
      ∃ v, f.type.makeRecord (namedValues bound) = .ok v ∧ values = [v] := by
  rw [callValues_of_record h, mapError_eq_ok_iff, map_eq_ok_iff]
  simp only [eq_comm]

/-- Only making the one record of a call fails. -/
theorem callValues_eq_error_iff {fault : BindingFault} : callValues formals bound = .error fault ↔
    ∃ f e, flattened? formals = some f ∧ f.type.makeRecord (namedValues bound) = .error e ∧
      fault = .raised e := by
  cases hf : flattened? formals with
  | none => simp [callValues_of_apart hf]
  | some f =>
    rw [callValues_of_record hf, mapError_eq_error_iff]
    simp only [map_eq_error_iff]
    constructor
    · rintro ⟨e, he, rfl⟩
      exact ⟨f, e, rfl, he, rfl⟩
    · rintro ⟨f', e, hf', he, rfl⟩
      obtain rfl := Option.some.inj hf'
      exact ⟨e, he, rfl⟩

theorem callValue_eq (b : Parameter × Option Value) : callValue b = b.2.getD b.1.default.shown := by
  obtain ⟨p, _ | v⟩ := b <;> rfl

/-- The values of a call hold what was bound. -/
theorem receives_of_bound (hvalues : callValues formals bound = .ok values)
    (hbound : bound.map (·.1) = visible formals) (hi : bound[i]? = some (p, given)) :
    Receives formals values i p given where
  value hf := by
    obtain rfl : bound.map callValue = values := by
      simpa [callValues_of_apart hf] using hvalues
    rw [List.getElem?_map, hi, Option.map_some, callValue_eq]
  record f hf hd := by
    obtain ⟨v, hmade, hv⟩ := (callValues_eq_ok_record hf).1 hvalues
    rw [visible_of_flattened? hf] at hbound
    have hnames : (bound.map (·.1.name)).Nodup := by
      rw [← hbound, List.map_map] at hd
      exact hd
    exact ⟨_, v, hmade, hv, lookup_namedValues hnames (List.mem_of_getElem? hi)⟩
  field f model fields hf hplain := by
    obtain ⟨v, hmade, rfl⟩ := (callValues_eq_ok_record hf).1 hvalues
    rw [visible_of_flattened? hf] at hbound
    rw [hplain.makeRecord_namedValues hbound] at hmade
    split at hmade
    · simp at hmade
    · obtain ⟨entries, hentries, rfl⟩ := map_eq_ok_iff.1 hmade
      obtain ⟨entry, hentry, hnew⟩ := exists_getElem?_of_forall₂ (mapM_eq_ok_iff.1 hentries) hi
      obtain ⟨held, hheld, rfl⟩ := map_eq_ok_iff.1 hnew
      exact ⟨entries, held, rfl, hentry, hheld⟩

namespace Scope

theorem Evaluates.fst {slot : Slot} {b : Parameter × Option Value} (h : s.Evaluates slot b) :
    b.1 = slot.1 := by
  cases h <;> rfl

theorem map_fst_of_evaluates {slots : List Slot} (h : List.Forall₂ s.Evaluates slots bound) :
    bound.map (·.1) = slots.map (·.1) := by
  induction h with
  | nil => rfl
  | cons hslot _ ih => rw [List.map_cons, List.map_cons, ih, hslot.fst]

/-- At the place of every parameter arrives what the argument comes to that it took. -/
theorem receives_of_bind (hb : s.bind formals arguments = .ok values)
    (hi : (assign (visible formals) arguments)[i]? = some (p, taken)) :
    ∃ given, s.Evaluates (p, taken) (p, given) ∧ Receives formals values i p given := by
  obtain ⟨bound, hall, hvalues⟩ := bind_eq_ok_iff.1 hb
  obtain ⟨⟨q, given⟩, hbound, hslot⟩ := exists_getElem?_of_forall₂ hall hi
  obtain rfl : q = p := hslot.fst
  refine ⟨given, hslot, receives_of_bound hvalues ?_ hbound⟩
  rw [map_fst_of_evaluates hall, map_fst_assign]

/-- If every argument that was taken has a value, binding succeeds, unless making the one record of the
call raises something. -/
theorem bind_of_taken (h : ∀ p a, (p, some a) ∈ assign (visible formals) arguments →
    ∃ v, s.valueOf p a = .ok v) :
    (∃ values, s.bind formals arguments = .ok values) ∨
    ∃ f named e, flattened? formals = some f ∧ (∀ model fields, ¬ f.IsQuietRecord model fields) ∧
      f.type.makeRecord named = .error e ∧ s.bind formals arguments = .error (.raised e) := by
  have hslots : ∀ slot ∈ assign (visible formals) arguments, ∃ b, s.Evaluates slot b := by
    rintro ⟨p, _ | a⟩ hslot
    · exact ⟨_, .absent p⟩
    · obtain ⟨v, hv⟩ := h p a hslot
      exact ⟨_, .present hv⟩
  obtain ⟨bound, hall⟩ := exists_forall₂ hslots
  cases hvalues : callValues formals bound with
  | ok values => exact .inl ⟨values, bind_eq_ok_iff.2 ⟨bound, hall, hvalues⟩⟩
  | error fault =>
    have hfault := bind_eq_error_iff.2 (.inr ⟨bound, hall, hvalues⟩)
    obtain ⟨f, e, hf, he, rfl⟩ := callValues_eq_error_iff.1 hvalues
    refine .inr ⟨f, _, e, hf, fun model fields hquiet => ?_, he, hfault⟩
    have hbound : bound.map (·.1) = f.fields := by
      rw [map_fst_of_evaluates hall, map_fst_assign, visible_of_flattened? hf]
    obtain ⟨entries, hmade⟩ := hquiet.exists_makeRecord hbound
    simp [hmade] at he

end Scope

end

end OperatorConsole
