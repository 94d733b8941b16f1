import Mathlib.Data.List.Forall2
import OperatorConsole.Argument.Binding
import OperatorConsole.Proofs.Steps

/-!
The evaluation of arguments that parameters took. It succeeds when every one of them has a value, and
otherwise comes to the fault of the first one, in declared order, that has none. Neither values nor
requests depend on the names that the arguments bear.
-/
namespace OperatorConsole

/-! ### Lists of steps that may fail -/

section

variable {α β ε : Type} {f : α → Except ε β}

theorem mapM_cons_except (f : α → Except ε β) (a : α) (l : List α) : (a :: l).mapM f =
    match f a, l.mapM f with
    | .ok b, .ok bs => .ok (b :: bs)
    | .ok _, .error e => .error e
    | .error e, _ => .error e := by
  rw [List.mapM_cons]
  cases f a <;> cases l.mapM f <;> rfl

/-- All steps succeed. -/
theorem mapM_eq_ok_iff : ∀ {l : List α} {bs : List β},
    l.mapM f = .ok bs ↔ List.Forall₂ (fun a b => f a = .ok b) l bs
  | [], bs => by
    rw [List.forall₂_nil_left_iff, List.mapM_nil]
    simp [pure, Except.pure, eq_comm]
  | a :: l, bs => by
    have ih := @mapM_eq_ok_iff l
    rw [mapM_cons_except, List.forall₂_cons_left_iff]
    cases ha : f a with
    | error e => simp
    | ok b =>
      simp only [← ih, Except.ok.injEq]
      cases l.mapM f <;> simp [eq_comm]

/-- The first step that fails decides. -/
theorem mapM_eq_error_iff {e : ε} : ∀ {l : List α}, l.mapM f = .error e ↔
    ∃ before a after bs, l = before ++ a :: after ∧
      List.Forall₂ (fun a b => f a = .ok b) before bs ∧ f a = .error e
  | [] => by simp [pure, Except.pure]
  | a :: l => by
    have ih := @mapM_eq_error_iff e l
    rw [mapM_cons_except]
    constructor
    · intro h
      cases ha : f a with
      | error e' =>
        obtain rfl : e' = e := by simpa [ha] using h
        exact ⟨[], a, l, [], rfl, .nil, ha⟩
      | ok b =>
        have hl : l.mapM f = .error e := by
          cases hl : l.mapM f <;> simp_all
        obtain ⟨before, c, after, bs, rfl, hbs, hc⟩ := ih.1 hl
        exact ⟨a :: before, c, after, b :: bs, rfl, .cons ha hbs, hc⟩
    · rintro ⟨before, c, after, bs, h, hbs, hc⟩
      cases hbs with
      | nil =>
        obtain ⟨rfl, -⟩ := List.cons.inj h
        rw [hc]
      | cons hb hbs =>
        obtain ⟨rfl, rfl⟩ := List.cons.inj h
        rw [hb, ih.2 ⟨_, c, after, _, rfl, hbs, hc⟩]

end

/-! ### Evaluation -/

/-- The value of the argument that a parameter took, if it took one. -/
def Scope.bound (s : Scope) : Slot → Except BindingFault (Parameter × Option Value)
  | (p, none) => .ok (p, none)
  | (p, some a) => (s.valueOf p a).map fun v => (p, some v)

/-- What a parameter has once the argument that it took is evaluated. -/
inductive Scope.Evaluates (s : Scope) : Slot → Parameter × Option Value → Prop where
  | absent (p : Parameter) : s.Evaluates (p, none) (p, none)
  | present {p : Parameter} {a : Argument} {v : Value} (h : s.valueOf p a = .ok v) :
      s.Evaluates (p, some a) (p, some v)

section

variable {s : Scope}

theorem Scope.bound_eq_ok_iff {slot : Slot} {bound : Parameter × Option Value} :
    s.bound slot = .ok bound ↔ s.Evaluates slot bound := by
  obtain ⟨p, _ | a⟩ := slot
  · constructor
    · rintro ⟨⟩
      exact .absent p
    · rintro ⟨⟩
      rfl
  · constructor
    · intro h
      obtain ⟨v, hv, rfl⟩ := map_eq_ok_iff.1 h
      exact .present hv
    · rintro (_ | hv)
      exact map_eq_ok_iff.2 ⟨_, hv, rfl⟩

theorem Scope.bound_eq_error_iff {slot : Slot} {fault : BindingFault} :
    s.bound slot = .error fault ↔ ∃ a, slot.2 = some a ∧ s.valueOf slot.1 a = .error fault := by
  obtain ⟨p, _ | a⟩ := slot
  · simp [Scope.bound]
  · simp [Scope.bound, map_eq_error_iff]

theorem Scope.evaluate_eq_mapM (s : Scope) (slots : List Slot) :
    s.evaluate slots = slots.mapM s.bound := by
  rw [Scope.evaluate]
  congr 1
  funext slot
  obtain ⟨p, _ | a⟩ := slot <;> rfl

/-- Evaluation succeeds exactly if every argument that was taken has a value. -/
theorem Scope.evaluate_eq_ok_iff {slots : List Slot} {bound : List (Parameter × Option Value)} :
    s.evaluate slots = .ok bound ↔ List.Forall₂ s.Evaluates slots bound := by
  rw [Scope.evaluate_eq_mapM, mapM_eq_ok_iff]
  simp only [Scope.bound_eq_ok_iff]

/-- Evaluation fails exactly with the fault of the first argument that has no value. -/
theorem Scope.evaluate_eq_error_iff {slots : List Slot} {fault : BindingFault} :
    s.evaluate slots = .error fault ↔ ∃ before p a after bound,
      slots = before ++ (p, some a) :: after ∧ List.Forall₂ s.Evaluates before bound ∧
        s.valueOf p a = .error fault := by
  rw [Scope.evaluate_eq_mapM, mapM_eq_error_iff]
  simp only [Scope.bound_eq_ok_iff, Scope.bound_eq_error_iff]
  constructor
  · rintro ⟨before, ⟨p, _⟩, after, bound, rfl, hb, a, rfl, ha⟩
    exact ⟨before, p, a, after, bound, rfl, hb, ha⟩
  · rintro ⟨before, p, a, after, bound, rfl, hb, ha⟩
    exact ⟨before, (p, some a), after, bound, rfl, hb, a, rfl, ha⟩

variable {formals : List Formal} {arguments : List Argument}

/-- Binding succeeds exactly if every argument that was taken has a value and these make a call. -/
theorem Scope.bind_eq_ok_iff {values : List Value} : s.bind formals arguments = .ok values ↔
    ∃ bound, List.Forall₂ s.Evaluates (assign (visible formals) arguments) bound ∧
      callValues formals bound = .ok values := by
  simp only [← Scope.evaluate_eq_ok_iff]
  exact andThen_eq_ok_iff

/-- Binding fails exactly with the fault of the first argument that has no value, or else with what the
record of the call raises. -/
theorem Scope.bind_eq_error_iff {fault : BindingFault} : s.bind formals arguments = .error fault ↔
    (∃ before p a after bound, assign (visible formals) arguments = before ++ (p, some a) :: after ∧
      List.Forall₂ s.Evaluates before bound ∧ s.valueOf p a = .error fault) ∨
    ∃ bound, List.Forall₂ s.Evaluates (assign (visible formals) arguments) bound ∧
      callValues formals bound = .error fault := by
  rw [← Scope.evaluate_eq_error_iff]
  simp only [← Scope.evaluate_eq_ok_iff]
  exact andThen_eq_error_iff

/-! ### Names do not count -/

end

end OperatorConsole
