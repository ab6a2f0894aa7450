/-!
# Tables of characters

A property of characters is a list of code point ranges, ends included. A character has the
property when one of the ranges holds it.
-/

namespace Sift.Text

/-- Ranges of code points, ends included. -/
abbrev CharTable := List (Nat × Nat)

/-- Whether one of the ranges holds the character. -/
def CharTable.has (table : CharTable) (c : Char) : Bool :=
  table.any fun range => range.1 ≤ c.toNat && c.toNat ≤ range.2

theorem CharTable.has_eq_true_iff {table : CharTable} {c : Char} :
    table.has c = true ↔ ∃ range ∈ table, range.1 ≤ c.toNat ∧ c.toNat ≤ range.2 := by
  simp [CharTable.has]

end Sift.Text
