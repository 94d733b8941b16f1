import OperatorConsole.Proofs.Steps
import OperatorConsole.Session.Shell

/-!
What executing a line comes to, in four cases: the line is not understood, its arguments cannot be bound,
no client is made for the call, or the operation is called on the client that is made. Before a client is
made nothing happens to the world but that content of arguments is asked for, and it does not matter what
the operations would do.
-/
namespace OperatorConsole

/-- The failure comes before a client is made for the call. -/
def Failure.IsBeforeCall : Failure → Prop
  | .grammar _ | .resolution _ | .binding _ => True
  | .target _ | .operation _ | .noResponse _ | .saving _ => False

section

variable {d : Directory} {vars : Variables} {w w₁ w' : World} {line : String} {f : Failure}
  {result : Except Failure Response} {s : Service} {o : Operation} {arguments : List Argument}
  {values : List Value} {target : Target} {e : Raised} {outcome : Outcome}

/-- Calling an operation of a service with values, up to its end: the result and the world that is left. -/
inductive Invocation (s : Service) (o : Operation) (values : List Value) (w : World) :
    Except Failure Response → World → Prop where
  | unmade {e : Raised} {w' : World} (hfactory : s.factory w = (.error e, w')) :
      Invocation s o values w (.error (.target e)) w'
  | called {target : Target} {w₁ w' : World} {outcome : Outcome}
      (hfactory : s.factory w = (.ok target, w₁))
      (hperform : o.perform target values w₁ = (outcome, w')) :
      Invocation s o values w outcome.toResponse w'

/-- Executing a line, up to its end: the result and the world that is left. -/
inductive Directory.Execution (d : Directory) (vars : Variables) (w : World) (line : String) :
    Except Failure Response → World → Prop where
  | unread {f : Failure} (hread : d.read line = .error f) : d.Execution vars w line (.error f) w
  | unbound {s : Service} {o : Operation} {arguments : List Argument} {fault : BindingFault}
      (hread : d.read line = .ok (s, o, arguments))
      (hbind : Scope.bind ⟨vars, w⟩ o.formals arguments = .error fault) :
      d.Execution vars w line (.error (.binding fault))
        (w.withSent (Scope.sentByBind ⟨vars, w⟩ o.formals arguments))
  | invoked {s : Service} {o : Operation} {arguments : List Argument} {values : List Value}
      {result : Except Failure Response} {w' : World} (hread : d.read line = .ok (s, o, arguments))
      (hbind : Scope.bind ⟨vars, w⟩ o.formals arguments = .ok values)
      (hinvoke : Invocation s o values
        (w.withSent (Scope.sentByBind ⟨vars, w⟩ o.formals arguments)) result w') :
      d.Execution vars w line result w'

/-! ### Calls -/

theorem invoke_of_factory_error (hfactory : s.factory w = (.error e, w')) :
    invoke s o values w = (.error (.target e), w') := by
  rw [invoke, hfactory]

theorem invoke_of_factory (hfactory : s.factory w = (.ok target, w₁))
    (hperform : o.perform target values w₁ = (outcome, w')) :
    invoke s o values w = (outcome.toResponse, w') := by
  rw [invoke, hfactory]
  simp only [hperform]

theorem invocation (s : Service) (o : Operation) (values : List Value) (w : World) :
    Invocation s o values w (invoke s o values w).1 (invoke s o values w).2 := by
  rcases hfactory : s.factory w with ⟨e | target, w₁⟩
  · rw [invoke_of_factory_error hfactory]
    exact .unmade hfactory
  · rw [invoke_of_factory hfactory rfl]
    exact .called hfactory rfl

theorem call_of_bind_error {fault : BindingFault}
    (hbind : Scope.bind ⟨vars, w⟩ o.formals arguments = .error fault) :
    call vars w s o arguments =
      (.error (.binding fault), w.withSent (Scope.sentByBind ⟨vars, w⟩ o.formals arguments)) := by
  simp only [call, hbind]

theorem call_of_bind_ok (hbind : Scope.bind ⟨vars, w⟩ o.formals arguments = .ok values) :
    call vars w s o arguments =
      invoke s o values (w.withSent (Scope.sentByBind ⟨vars, w⟩ o.formals arguments)) := by
  simp only [call, hbind]

/-! ### Lines -/

theorem Directory.execute_of_command {fault : SyntaxFault} (h : Command.read line = .error fault) :
    d.execute vars w line = (.error (.grammar fault), w) := by
  simp only [execute, read, h, mapError_error, error_bind]

theorem Directory.execute_of_read (hread : d.read line = .ok (s, o, arguments)) :
    d.execute vars w line = call vars w s o arguments := by
  rw [execute, hread]

theorem Directory.execution (d : Directory) (vars : Variables) (w : World) (line : String) :
    d.Execution vars w line (d.execute vars w line).1 (d.execute vars w line).2 := by
  cases hread : d.read line with
  | error f =>
    simpa only [execute, hread] using Execution.unread hread
  | ok found =>
    obtain ⟨s, o, arguments⟩ := found
    rw [execute_of_read hread]
    cases hbind : Scope.bind ⟨vars, w⟩ o.formals arguments with
    | error fault =>
      rw [call_of_bind_error hbind]
      exact .unbound hread hbind
    | ok values =>
      rw [call_of_bind_ok hbind]
      exact .invoked hread hbind (invocation s o values _)

theorem Directory.execution_of_execute (h : d.execute vars w line = (result, w')) :
    d.Execution vars w line result w' := by
  simpa only [h] using d.execution vars w line

/-! ### Failures before the call -/

/-- What an outcome fails with comes from the call. -/
theorem Outcome.not_isBeforeCall (h : outcome.toResponse = .error f) : ¬ f.IsBeforeCall := by
  cases outcome with
  | response r => cases h
  | answer t | refused t =>
    obtain ⟨fault, -, rfl⟩ := mapError_eq_error_iff.1 h
    exact id
  | apiError status headers body =>
    obtain ⟨fault, -, rfl⟩ := mapError_eq_error_iff.1 h
    exact id
  | other | failure =>
    cases h
    exact id

theorem Invocation.not_isBeforeCall (h : Invocation s o values w (.error f) w') :
    ¬ f.IsBeforeCall := by
  generalize hresult : (Except.error f : Except Failure Response) = result at h
  cases h with
  | unmade =>
    cases hresult
    exact id
  | called => exact Outcome.not_isBeforeCall hresult.symm

/-- A line that fails before the call was not understood, or its arguments were not bound; all that
happened is that content of arguments was asked for. -/
theorem Directory.execution_beforeCall (h : d.execute vars w line = (.error f, w'))
    (hf : f.IsBeforeCall) :
    (d.read line = .error f ∧ w' = w) ∨
      ∃ s o arguments fault, d.read line = .ok (s, o, arguments) ∧
        Scope.bind ⟨vars, w⟩ o.formals arguments = .error fault ∧ f = .binding fault ∧
        w' = w.withSent (Scope.sentByBind ⟨vars, w⟩ o.formals arguments) := by
  generalize hresult : (Except.error f : Except Failure Response) = result at h
  cases execution_of_execute h with
  | unread hread =>
    cases hresult
    exact .inl ⟨hread, rfl⟩
  | unbound hread hbind =>
    cases hresult
    exact .inr ⟨_, _, _, _, hread, hbind, rfl, rfl⟩
  | invoked _ _ hinvoke =>
    rw [← hresult] at hinvoke
    exact absurd hf hinvoke.not_isBeforeCall

end

end OperatorConsole
