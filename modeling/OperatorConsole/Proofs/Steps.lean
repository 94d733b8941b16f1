/-!
Steps that may fail. A sequence of steps fails with its first fault, and a report on a fault does not
change which step it was.
-/
namespace OperatorConsole

variable {α β ε δ : Type}

@[simp]
theorem ok_bind (a : α) (next : α → Except ε β) : (Except.ok a >>= next) = next a := rfl

@[simp]
theorem error_bind (e : ε) (next : α → Except ε β) : (Except.error e >>= next) = .error e := rfl

theorem andThen_eq_ok_iff {x : Except ε α} {next : α → Except ε β} {b : β} :
    (x >>= next) = .ok b ↔ ∃ a, x = .ok a ∧ next a = .ok b := by
  cases x <;> simp

theorem andThen_eq_error_iff {x : Except ε α} {next : α → Except ε β} {e : ε} :
    (x >>= next) = .error e ↔ x = .error e ∨ ∃ a, x = .ok a ∧ next a = .error e := by
  cases x <;> simp

/-- A fault that neither step has is not the fault of both. -/
theorem andThen_ne_error {x : Except ε α} {next : α → Except ε β} {e : ε} (hx : x ≠ .error e)
    (hnext : ∀ a, next a ≠ .error e) : (x >>= next) ≠ .error e := by
  intro h
  rcases andThen_eq_error_iff.1 h with hfault | ⟨a, -, hfault⟩
  · exact hx hfault
  · exact hnext a hfault

theorem map_eq_ok_iff {x : Except ε α} {f : α → β} {b : β} : x.map f = .ok b ↔ ∃ a, x = .ok a ∧ f a = b := by
  cases x <;> simp [Except.map]

theorem map_eq_error_iff {x : Except ε α} {f : α → β} {e : ε} : x.map f = .error e ↔ x = .error e := by
  cases x <;> simp [Except.map]

@[simp]
theorem mapError_ok (a : α) (f : ε → δ) : (Except.ok a).mapError f = .ok a := rfl

@[simp]
theorem mapError_error (e : ε) (f : ε → δ) : (Except.error e : Except ε α).mapError f = .error (f e) :=
  rfl

theorem mapError_eq_ok_iff {x : Except ε α} {f : ε → δ} {a : α} : x.mapError f = .ok a ↔ x = .ok a := by
  cases x <;> simp

theorem mapError_eq_error_iff {x : Except ε α} {f : ε → δ} {d : δ} :
    x.mapError f = .error d ↔ ∃ e, x = .error e ∧ f e = d := by
  cases x <;> simp

theorem mapError_ne_error {x : Except ε α} {f : ε → δ} {d : δ} (hf : ∀ e, f e ≠ d) :
    x.mapError f ≠ .error d := by
  intro h
  obtain ⟨e, -, he⟩ := mapError_eq_error_iff.1 h
  exact hf e he

end OperatorConsole
