import OperatorConsole.Text.Lines

/-!
Texts that differ at most in how their lines end. Where one of them has carriage returns or line feeds
the other one has some too, and everything else is the same. Joining the line ends of a text leaves it
such a text, and a reader that takes all of these characters alike cannot tell the two apart.
-/
namespace OperatorConsole.Text

/-- A carriage return or a line feed. -/
def IsReturn (c : Char) : Prop := c = '\r' ∨ c = '\n'

instance (c : Char) : Decidable (IsReturn c) := inferInstanceAs (Decidable (_ ∨ _))

/-- The texts differ at most in the runs of carriage returns and line feeds that both have between
their other characters. Such a run may be longer in one of them. -/
inductive SameLines : List Char → List Char → Prop
  | nil : SameLines [] []
  | char {c cs ds} : ¬ IsReturn c → SameLines cs ds → SameLines (c :: cs) (c :: ds)
  | returns {e f cs ds} : IsReturn e → IsReturn f → SameLines cs ds → SameLines (e :: cs) (f :: ds)
  | left {e f cs ds} : IsReturn e → IsReturn f → SameLines cs (f :: ds) → SameLines (e :: cs) (f :: ds)
  | right {e f cs ds} : IsReturn e → IsReturn f → SameLines (e :: cs) ds → SameLines (e :: cs) (f :: ds)

variable {cs ds : List Char} {c : Char} {p : Char → Bool}

theorem sameLines_joinLineEnds (cs : List Char) : SameLines cs (joinLineEnds cs) := by
  fun_induction joinLineEnds cs with
  | case1 => exact .nil
  | case2 rest ih => exact .left (.inl rfl) (.inr rfl) (.returns (.inr rfl) (.inr rfl) ih)
  | case3 c rest _ ih =>
    by_cases hc : c = '\r'
    · subst hc
      exact .returns (.inl rfl) (.inr rfl) ih
    · rw [if_neg (by simpa using hc)]
      by_cases hn : c = '\n'
      · subst hn
        exact .returns (.inr rfl) (.inr rfl) ih
      · exact .char (not_or.2 ⟨hc, hn⟩) ih

namespace SameLines

theorem symm (h : SameLines cs ds) : SameLines ds cs := by
  induction h with
  | nil => exact .nil
  | char hc _ ih => exact .char hc ih
  | returns he hf _ ih => exact .returns hf he ih
  | left he hf _ ih => exact .right hf he ih
  | right he hf _ ih => exact .left hf he ih

/-- A character that is no line end stands at the start of both texts. -/
theorem cons (h : SameLines (c :: cs) ds) (hc : ¬ IsReturn c) :
    ∃ rest, ds = c :: rest ∧ SameLines cs rest := by
  cases h with
  | char _ h => exact ⟨_, rfl, h⟩
  | returns he => exact absurd he hc
  | left he => exact absurd he hc
  | right he => exact absurd he hc

theorem nil_iff (h : SameLines cs ds) : cs = [] ↔ ds = [] := by
  cases h <;> simp

theorem head?_iff (h : SameLines cs ds) (hc : ¬ IsReturn c) :
    cs.head? = some c ↔ ds.head? = some c := by
  cases h <;> grind

/-! ### Readers -/

theorem takeWhile_eq (hp : ∀ c, IsReturn c → p c = false) (h : SameLines cs ds) :
    cs.takeWhile p = ds.takeWhile p := by
  induction h with
  | nil => rfl
  | char _ _ ih => rw [List.takeWhile_cons, List.takeWhile_cons, ih]
  | returns he hf _ _ => simp [hp _ he, hp _ hf]
  | left he hf _ _ => simp [hp _ he, hp _ hf]
  | right he hf _ _ => simp [hp _ he, hp _ hf]

theorem dropWhile (hp : ∀ c, IsReturn c → p c = true) (h : SameLines cs ds) :
    SameLines (cs.dropWhile p) (ds.dropWhile p) := by
  induction h with
  | nil => exact .nil
  | @char c cs ds hc h ih =>
    cases hpc : p c with
    | true => simpa [hpc] using ih
    | false => simpa [hpc] using .char hc h
  | returns he hf _ ih => simpa [hp _ he, hp _ hf] using ih
  | left he hf _ ih => simpa [hp _ he, hp _ hf] using ih
  | right he hf _ ih => simpa [hp _ he, hp _ hf] using ih

/-- What follows as many characters, none of which is a line end. -/
theorem drop {n : Nat} (hn : ∀ c ∈ cs.take n, ¬ IsReturn c) (h : SameLines cs ds) :
    SameLines (cs.drop n) (ds.drop n) := by
  induction n generalizing cs ds with
  | zero => exact h
  | succ n ih =>
    cases h with
    | nil => exact .nil
    | char _ h => exact ih (fun c hc => hn c (by simp [hc])) h
    | returns he => exact absurd he (hn _ (by simp))
    | left he => exact absurd he (hn _ (by simp))
    | right he => exact absurd he (hn _ (by simp))

theorem isPrefixOf_eq {word : List Char} (hword : ∀ c ∈ word, ¬ IsReturn c) (h : SameLines cs ds) :
    word.isPrefixOf cs = word.isPrefixOf ds := by
  induction word generalizing cs ds with
  | nil => rfl
  | cons c word ih =>
    have hne : ∀ e, IsReturn e → (c == e) = false := by
      refine fun e he => beq_false_of_ne ?_
      rintro rfl
      exact hword c (by simp) he
    cases h with
    | nil => rfl
    | char _ h =>
      rw [List.isPrefixOf_cons_cons, List.isPrefixOf_cons_cons,
        ih (fun d hd => hword d (by simp [hd])) h]
    | returns he hf => simp [List.isPrefixOf, hne _ he, hne _ hf]
    | left he hf => simp [List.isPrefixOf, hne _ he, hne _ hf]
    | right he hf => simp [List.isPrefixOf, hne _ he, hne _ hf]

end SameLines

end OperatorConsole.Text
