import Mathlib.Data.List.TakeWhile
import OperatorConsole.Text.Blank
import OperatorConsole.Text.Lines

/-!
Stripped texts. Stripping takes a run of a class of characters from either end of a text and nothing
else: what is left neither begins nor ends with such a character, and a text that neither begins nor
ends with one is left as it is.
-/
namespace OperatorConsole.Text

variable {p : Char → Bool} {c : Char} {cs front back : List Char}

/-- Nothing is dropped from a text that does not begin with a character of the class. -/
theorem dropWhile_eq_self (h : ∀ c ∈ cs.head?, p c = false) : cs.dropWhile p = cs := by
  cases cs with
  | nil => rfl
  | cons c cs => exact List.dropWhile_cons_of_neg (by simp [h c rfl])

theorem stripBy_append_left (h : ∀ c ∈ front, p c = true) : stripBy p (front ++ cs) = stripBy p cs := by
  rw [stripBy, stripStart, List.dropWhile_append_of_pos h]
  rfl

theorem stripEnd_append (h : ∀ c ∈ back, p c = true) : stripEnd p (cs ++ back) = stripEnd p cs := by
  have hback : ∀ c ∈ back.reverse, p c = true := fun c hc => h c (List.mem_reverse.1 hc)
  rw [stripEnd, List.reverse_append, List.dropWhile_append_of_pos hback]
  rfl

theorem stripBy_append_right (h : ∀ c ∈ back, p c = true) : stripBy p (cs ++ back) = stripBy p cs := by
  rw [stripBy, stripBy, stripStart, List.dropWhile_append]
  split
  · next hempty =>
    rw [stripStart, List.isEmpty_iff.1 hempty, List.dropWhile_eq_nil_iff.2 h]
  · rw [stripEnd_append h]
    rfl

/-- A text is what is left of it between two runs of the class. -/
theorem exists_stripBy (p : Char → Bool) (cs : List Char) :
    ∃ front back, cs = front ++ (stripBy p cs ++ back) ∧ (∀ c ∈ front, p c = true) ∧
      ∀ c ∈ back, p c = true := by
  refine ⟨cs.takeWhile p, ((cs.dropWhile p).reverse.takeWhile p).reverse, ?_,
    fun c => List.mem_takeWhile_imp, fun c hc => List.mem_takeWhile_imp (List.mem_reverse.1 hc)⟩
  rw [stripBy, stripEnd, stripStart, ← List.reverse_append, List.takeWhile_append_dropWhile,
    List.reverse_reverse, List.takeWhile_append_dropWhile]

theorem head?_stripBy (h : c ∈ (stripBy p cs).head?) : p c = false := by
  have hprefix : stripBy p cs <+: cs.dropWhile p := by
    rw [stripBy, stripEnd, stripStart, ← List.reverse_suffix, List.reverse_reverse]
    exact List.dropWhile_suffix p
  obtain ⟨back, hback⟩ := hprefix
  have hhead := List.head?_dropWhile_not p cs
  rw [← hback, List.head?_append, Option.mem_def.1 h] at hhead
  simpa using hhead

theorem getLast?_stripBy (h : c ∈ (stripBy p cs).getLast?) : p c = false := by
  have hhead := List.head?_dropWhile_not p (stripStart p cs).reverse
  rw [stripBy, stripEnd, List.getLast?_reverse, Option.mem_def] at h
  rw [h] at hhead
  simpa using hhead

/-- A text without characters of the class at its ends is left as it is. -/
theorem stripBy_eq_self (hhead : ∀ c ∈ cs.head?, p c = false)
    (hlast : ∀ c ∈ cs.getLast?, p c = false) : stripBy p cs = cs := by
  rw [stripBy, stripStart, dropWhile_eq_self hhead, stripEnd, dropWhile_eq_self,
    List.reverse_reverse]
  rwa [List.head?_reverse]

theorem stripBy_eq_nil_iff : stripBy p cs = [] ↔ ∀ c ∈ cs, p c = true := by
  constructor
  · intro h c hc
    obtain ⟨front, back, hcs, hfront, hback⟩ := exists_stripBy p cs
    rw [h, List.nil_append] at hcs
    rw [hcs] at hc
    exact (List.mem_append.1 hc).elim (hfront c) (hback c)
  · intro h
    have hnil : stripBy p (cs ++ []) = stripBy p [] := stripBy_append_left h
    rwa [List.append_nil] at hnil

/-- Characters that are changed one by one are taken away by what becomes of them. -/
theorem stripBy_map (p : Char → Bool) (f : Char → Char) (cs : List Char) :
    stripBy p (cs.map f) = (stripBy (p ∘ f) cs).map f := by
  rw [stripBy, stripEnd, stripStart, List.dropWhile_map, ← List.map_reverse, List.dropWhile_map, ← List.map_reverse]
  rfl

/-- Every character that ends a line is white space. -/
theorem isBlank_of_isLineEnd (h : isLineEnd c = true) : isBlank c = true := by
  rw [isBlank, Ranges.has_iff]
  simp only [isLineEnd, Bool.or_eq_true, Bool.and_eq_true, decide_eq_true_eq, beq_iff_eq] at h
  rcases h with (((h | h) | h) | h) | h
  · exact ⟨(0x9, 0xD), by decide, by simp only; omega, by simp only; omega⟩
  · exact ⟨(0x1C, 0x20), by decide, by simp only; omega, by simp only; omega⟩
  · exact ⟨(0x85, 0x85), by decide, by simp only; omega, by simp only; omega⟩
  · exact ⟨(0x2028, 0x2029), by decide, by simp only; omega, by simp only; omega⟩
  · exact ⟨(0x2028, 0x2029), by decide, by simp only; omega, by simp only; omega⟩

end OperatorConsole.Text
