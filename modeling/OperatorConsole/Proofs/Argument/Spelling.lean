import OperatorConsole.Proofs.Argument.Assignment
import OperatorConsole.Proofs.Argument.Evaluation
import OperatorConsole.Proofs.Argument.Value

/-!
Ways to write an argument. Which argument a parameter takes depends on the names of the arguments
only, and what it becomes on the text it stands for and, when content is asked for, on whether it is
written as a document. So the value of a variable may be written in place of a reference to it,
whatever stands in it, variables that no taken argument refers to do not count, and for a parameter
that takes its text as it is all ways to write one text are the same.
-/
namespace OperatorConsole

/-! ### What arguments come to -/

/-- The values that arguments come to, or the fault, and the requests that are sent for them. -/
def Scope.comesTo (s : Scope) (formals : List Formal) (arguments : List Argument) :
    Except BindingFault (List Value) × List Web.Request :=
  (s.bind formals arguments, s.sentByBind formals arguments)

/-- An argument in one scope is for a parameter what another one is in another scope. -/
structure Scope.Alike (s s' : Scope) (p : Parameter) (a b : Argument) : Prop where
  value : s.valueOf p a = s'.valueOf p b
  requests : s.requestsOf p a = s'.requestsOf p b

/-- Parameters that took arguments which are the same for them. -/
inductive Scope.AlikeSlots (s s' : Scope) : Slot → Slot → Prop where
  | absent (p : Parameter) : s.AlikeSlots s' (p, none) (p, none)
  | present {p : Parameter} {a b : Argument} (h : s.Alike s' p a b) :
      s.AlikeSlots s' (p, some a) (p, some b)

section

variable {s s' : Scope} {slots slots' : List Slot}

theorem Scope.AlikeSlots.bound {slot slot' : Slot} (h : s.AlikeSlots s' slot slot') :
    s.bound slot = s'.bound slot' := by
  cases h with
  | absent p => rfl
  | present h => simp only [Scope.bound, h.value]

theorem Scope.evaluate_alike (h : List.Forall₂ (s.AlikeSlots s') slots slots') :
    s.evaluate slots = s'.evaluate slots' := by
  rw [s.evaluate_eq_mapM, s'.evaluate_eq_mapM]
  induction h with
  | nil => simp only [List.mapM_nil]
  | cons hslot _ ih => rw [mapM_cons_except, mapM_cons_except, hslot.bound, ih]

/-- The same requests are sent: those of the arguments up to the first one without a value. -/
theorem Scope.sentFor_alike (h : List.Forall₂ (s.AlikeSlots s') slots slots') :
    s.sentFor slots = s'.sentFor slots' := by
  induction h with
  | nil => simp only [Scope.sentFor]
  | cons hslot _ ih =>
    cases hslot with
    | absent p => simpa only [Scope.sentFor] using ih
    | present h => simp only [Scope.sentFor, h.requests, h.value, ih]

end

/-! ### Only names decide who takes an argument -/

section

variable {f : Argument → Argument} (hf : ∀ a, (f a).name = a.name)

include hf

theorem chosen_map (name : String) (left : List Placed) :
    chosen name (left.map (Prod.map f id)) = (chosen name left).map (Prod.map f id) := by
  have hfind : (left.map (Prod.map f id)).find? (·.1.name == name) =
      (left.find? (·.1.name == name)).map (Prod.map f id) := by
    rw [List.find?_map]
    simp only [Function.comp_def, Prod.map_fst, hf]
  unfold chosen
  rw [hfind]
  cases left.find? (·.1.name == name) with
  | some x => rfl
  | none =>
    cases left with
    | nil => rfl
    | cons x rest =>
      have hname : (f x.1).isNamed = x.1.isNamed := isNamed_congr (hf x.1)
      cases hx : x.1.isNamed <;> simp [Option.filter, hname, hx]

omit hf in
theorem without_map (taken : Option Placed) (left : List Placed) :
    without (taken.map (Prod.map f id)) (left.map (Prod.map f id)) =
      (without taken left).map (Prod.map f id) := by
  rw [without, without, List.filter_map]
  cases taken <;> rfl

theorem places_map : ∀ (ps : List Parameter) (left : List Placed),
    places ps (left.map (Prod.map f id)) = places ps left
  | [], _ => rfl
  | p :: ps, left => by
    rw [places, places, chosen_map hf, without_map, places_map ps, Option.map_map]
    rfl

/-- Changing arguments without their names leaves every one to the parameter that took it. -/
theorem placesOf_map (ps : List Parameter) (arguments : List Argument) :
    placesOf ps (arguments.map f) = placesOf ps arguments := by
  rw [placesOf, placesOf, List.zipIdx_map, places_map hf]

end

/-- The argument with nothing but its name. -/
def Argument.nameOnly (a : Argument) : Argument := ⟨.plain, a.name, ""⟩

/-- Arguments by the same names go to the same parameters. -/
theorem placesOf_congr (ps : List Parameter) {arguments arguments' : List Argument}
    (h : arguments.map (·.name) = arguments'.map (·.name)) :
    placesOf ps arguments = placesOf ps arguments' := by
  have hsame : arguments.map Argument.nameOnly = arguments'.map Argument.nameOnly := by
    have hmap := congrArg (List.map fun name => (⟨.plain, name, ""⟩ : Argument)) h
    rw [List.map_map, List.map_map] at hmap
    exact hmap
  have hname : ∀ a : Argument, a.nameOnly.name = a.name := fun _ => rfl
  rw [← placesOf_map hname ps arguments, hsame, placesOf_map hname]

/-! ### Two commands -/

/-- The parameter takes the argument at a place of the command. -/
def Takes (ps : List Parameter) (arguments : List Argument) (p : Parameter) (i : Nat) : Prop :=
  (p, some i) ∈ ps.zip (placesOf ps arguments)

section

variable {s s' : Scope} {formals : List Formal} {arguments arguments' : List Argument}

theorem assign_eq_placesOf (ps : List Parameter) (arguments : List Argument) :
    assign ps arguments = (ps.zip (placesOf ps arguments)).map
      (Prod.map id (·.bind (arguments[·]?))) := by
  have h := assign_eq_places arguments ps arguments.zipIdx (ascending_zipIdx arguments)
    fun x hx => List.mk_mem_zipIdx_iff_getElem?.1 hx
  rw [List.zipIdx_map_fst] at h
  rw [h, List.zip_map_right]
  rfl

/-- Two commands whose arguments have the same names come to the same if every argument that a
parameter takes is for it what the other argument at its place is. -/
theorem Scope.comesTo_congr (hnames : arguments.map (·.name) = arguments'.map (·.name))
    (h : ∀ p i a b, Takes (visible formals) arguments p i → arguments[i]? = some a →
      arguments'[i]? = some b → s.Alike s' p a b) :
    s.comesTo formals arguments = s'.comesTo formals arguments' := by
  have hlength : arguments.length = arguments'.length := by
    simpa using congrArg List.length hnames
  have hslots : List.Forall₂ (s.AlikeSlots s') (assign (visible formals) arguments)
      (assign (visible formals) arguments') := by
    rw [assign_eq_placesOf, assign_eq_placesOf, ← placesOf_congr (visible formals) hnames,
      List.forall₂_map_left_iff, List.forall₂_map_right_iff, List.forall₂_same]
    rintro ⟨p, place⟩ hp
    cases place with
    | none => exact .absent p
    | some i =>
      rcases Nat.lt_or_ge i arguments.length with hi | hi
      · have ha := List.getElem?_eq_getElem hi
        have hb := List.getElem?_eq_getElem (hlength ▸ hi)
        simpa only [Prod.map, id_eq, Option.bind_some, ha, hb] using
          AlikeSlots.present (h p i _ _ hp ha hb)
      · have ha := List.getElem?_eq_none hi
        have hb := List.getElem?_eq_none (hlength ▸ hi)
        simpa only [Prod.map, id_eq, Option.bind_some, ha, hb] using AlikeSlots.absent p
  rw [Scope.comesTo, Scope.comesTo, Scope.bind, Scope.bind, Scope.evaluate_alike hslots,
    Scope.sentByBind, Scope.sentByBind, Scope.sentFor_alike hslots]

end

/-! ### What an argument is for a parameter -/

/-- The parameter takes the text of its argument as it is, or as a truth value or a number. -/
def Parameter.TakesText (p : Parameter) : Prop := p.kind = .text ∨ p.kind.IsScalar

section

variable {s s' : Scope} {p : Parameter} {a b : Argument} {text : String}

theorem Scope.fileOf_congr (hworld : s.world = s'.world) (t : DeclaredType) (locator : String) :
    s.fileOf t locator = s'.fileOf t locator := by
  rw [Scope.fileOf, Scope.fileOf, hworld]

theorem Scope.documentOf_congr (hworld : s.world = s'.world)
    (hform : a.form = .document ↔ b.form = .document) :
    s.documentOf p.name a text = s'.documentOf p.name b text := by
  unfold Scope.documentOf
  rw [hworld]
  cases ha : a.form <;> cases hb : b.form <;> simp_all

/-- Arguments that stand for one text are the same for every parameter if both are documents or
neither is. -/
theorem Scope.alike_of_form (hworld : s.world = s'.world) (htext : s.textOf a = s'.textOf b)
    (hform : a.form = .document ↔ b.form = .document) : s.Alike s' p a b where
  value := by
    cases hb : s'.textOf b with
    | error fault =>
      rw [valueOf_of_textOf_error (htext.trans hb), valueOf_of_textOf_error hb]
    | ok text =>
      have ha := htext.trans hb
      rcases p.kind.cases with hk | hk | hk | hk
      · rw [valueOf_text hk ha, valueOf_text hk hb]
      · rw [valueOf_scalar hk ha, valueOf_scalar hk hb]
      · rw [valueOf_file hk ha, valueOf_file hk hb, fileOf_congr hworld]
        simp only [hform]
      · rw [valueOf_structured hk ha, valueOf_structured hk hb, documentOf_congr hworld hform]
  requests := by
    have hdocument : (a.form == .document) = (b.form == .document) := by simp [hform]
    rw [requestsOf, requestsOf, htext, hworld, hdocument]

/-- For a parameter that takes texts all arguments that stand for one text are the same. -/
theorem Scope.alike_of_takesText (hp : p.TakesText) (ha : s.textOf a = .ok text)
    (hb : s.textOf b = .ok text) : s.Alike s p a b where
  value := by
    rcases hp with hk | hk
    · rw [valueOf_text hk ha, valueOf_text hk hb]
    · rw [valueOf_scalar hk ha, valueOf_scalar hk hb]
  requests := by
    rw [requestsOf, requestsOf, ha, hb]
    rcases hp with hk | hk | hk
    · rw [hk]
    · rw [hk]
    · cases hkind : p.kind <;> simp_all [Kind.isNumeric]

end

/-! ### Writing values in place of references -/

/-- The argument with the value of the variable that it refers to in place of the reference. -/
def Variables.writeOut (vars : Variables) (a : Argument) : Argument :=
  match a.form, vars.lookup a.value with
  | .reference, some value => ⟨.plain, a.name, value⟩
  | _, _ => a

@[simp]
theorem Variables.name_writeOut (vars : Variables) (a : Argument) :
    (vars.writeOut a).name = a.name := by
  unfold writeOut
  split <;> rfl

/-- What is written out stands for the same text, and is no document unless it was one. -/
theorem Scope.alike_writeOut (s : Scope) (p : Parameter) (a : Argument) :
    s.Alike s p (s.vars.writeOut a) a := by
  rw [Variables.writeOut]
  split
  · next value hform hvar =>
    refine alike_of_form rfl ?_ (by simp [hform])
    rw [textOf_of_lookup hform hvar, textOf_of_ne_reference (by simp)]
  · exact ⟨rfl, rfl⟩

/-- Every command comes to the same whether its references to variables are kept or written out, and
its parameters take the same arguments of it. What it comes to depends on the variables only that
taken arguments refer to, and, for parameters that take texts, on the texts and not on how they are
written. -/
theorem comesTo_writeOut (s : Scope) (formals : List Formal) (arguments : List Argument) :
    s.comesTo formals (arguments.map s.vars.writeOut) = s.comesTo formals arguments ∧
    placesOf (visible formals) (arguments.map s.vars.writeOut) =
      placesOf (visible formals) arguments ∧
    (∀ vars : Variables, (∀ p i a, Takes (visible formals) arguments p i → arguments[i]? = some a →
        a.form = .reference → vars.lookup a.value = s.vars.lookup a.value) →
      Scope.comesTo ⟨vars, s.world⟩ formals arguments = s.comesTo formals arguments) ∧
    ∀ arguments' : List Argument, arguments'.map (·.name) = arguments.map (·.name) →
      (∀ i a b, arguments[i]? = some a → arguments'[i]? = some b → a = b ∨
        ∃ text, s.textOf a = .ok text ∧ s.textOf b = .ok text ∧
          ∀ p, Takes (visible formals) arguments p i → p.TakesText) →
      s.comesTo formals arguments' = s.comesTo formals arguments := by
  refine ⟨?_, placesOf_map s.vars.name_writeOut _ _, fun vars hvars => ?_,
    fun arguments' hnames htexts => ?_⟩
  · refine (Scope.comesTo_congr (by simp) fun p i a b _ ha hb => ?_).symm
    rw [List.getElem?_map, ha] at hb
    obtain rfl : s.vars.writeOut a = b := by simpa using hb
    obtain ⟨hvalue, hrequests⟩ := s.alike_writeOut p a
    exact ⟨hvalue.symm, hrequests.symm⟩
  · refine Scope.comesTo_congr rfl fun p i a b hp ha hb => ?_
    obtain rfl : a = b := Option.some_inj.1 (ha.symm.trans hb)
    refine Scope.alike_of_form rfl ?_ Iff.rfl
    by_cases hform : a.form = .reference
    · have hlookup := hvars p i a hp ha hform
      cases hvar : s.vars.lookup a.value with
      | none => rw [Scope.textOf_of_lookup_none hform (hlookup.trans hvar),
          Scope.textOf_of_lookup_none hform hvar]
      | some value => rw [Scope.textOf_of_lookup hform (hlookup.trans hvar),
          Scope.textOf_of_lookup hform hvar]
    · rw [Scope.textOf_of_ne_reference hform, Scope.textOf_of_ne_reference hform]
  · refine (Scope.comesTo_congr hnames.symm fun p i a b hp ha hb => ?_).symm
    obtain rfl | ⟨text, htext, htext', htakes⟩ := htexts i a b ha hb
    · exact ⟨rfl, rfl⟩
    · exact Scope.alike_of_takesText (htakes p hp) htext htext'

/-- A variable whose value looks like an argument by name, a quotation and a reference. -/
def labelVariables : Variables := [("label", "name='x' \"$free\"")]

/-- Arguments of `threeTexts` that refer to variables; the last one is one too many. -/
def labelArguments : List Argument :=
  [⟨.reference, "price", "label"⟩, ⟨.reference, "", "label"⟩, ⟨.plain, "", "4"⟩,
    ⟨.reference, "", "free"⟩]

theorem comesTo_writeOut_label :
    Scope.comesTo ⟨labelVariables, .bare⟩ threeTexts
      [⟨.plain, "price", "name='x' \"$free\""⟩, ⟨.plain, "", "name='x' \"$free\""⟩,
        ⟨.plain, "", "4"⟩, ⟨.reference, "", "free"⟩] =
    Scope.comesTo ⟨labelVariables, .bare⟩ threeTexts labelArguments :=
  (comesTo_writeOut ⟨labelVariables, .bare⟩ threeTexts labelArguments).1

end OperatorConsole
