import OperatorConsole.Proofs.Keyed
import OperatorConsole.Session.Basic

/-!
Variables of a session. A variable that is given a value has it, and every other variable is as it
was. Clearing the reserved variables leaves each of them empty.
-/
namespace OperatorConsole

namespace Variables

theorem puts : Keyed.Puts (fun v : String × String => v.1) fun v => set v.1 v.2 where
  nil _ := rfl
  cons v n rest := by
    rw [set]
    simp only [beq_iff_eq]

theorem lookup_set (name value other : String) (vs : Variables) :
    (vs.set name value).lookup other = if other = name then some value else vs.lookup other :=
  puts.lookup_put (name, value) other vs

end Variables

namespace Session

variable (s : Session) (name value other : String)

/-- The value of a variable. -/
def value? (s : Session) (name : String) : Option String := s.vars.lookup name

theorem value?_define : (s.define name value).value? other =
    if other = name then some value else s.value? other :=
  Variables.lookup_set name value other s.vars

@[simp]
theorem value?_define_self : (s.define name value).value? name = some value := by
  simp [value?_define]

theorem value?_define_of_ne (h : other ≠ name) :
    (s.define name value).value? other = s.value? other := by
  simp [value?_define, h]

theorem value?_clearLast : s.clearLast.value? other =
    if other ∈ reserved then some "" else s.value? other := by
  simp only [clearLast, reserved, List.foldl_cons, List.foldl_nil, value?_define, List.mem_cons,
    List.not_mem_nil, or_false]
  grind

end Session

end OperatorConsole
