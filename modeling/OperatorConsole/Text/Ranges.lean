/-!
Tables of code point ranges. A table is a list of closed ranges; a character is in the table when
one of the ranges holds its code point.
-/
namespace OperatorConsole.Text

/-- Closed ranges of code points, in ascending order. -/
abbrev Ranges := List (Nat × Nat)

/-- Some range of the table holds the character. -/
def Ranges.has (table : Ranges) (c : Char) : Bool :=
  table.any fun range => range.1 ≤ c.toNat && c.toNat ≤ range.2

theorem Ranges.has_iff (table : Ranges) (c : Char) :
    table.has c = true ↔ ∃ range ∈ table, range.1 ≤ c.toNat ∧ c.toNat ≤ range.2 := by
  simp [Ranges.has]

end OperatorConsole.Text
