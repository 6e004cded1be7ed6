/-
# Tables of character ranges

A property of characters that comes from a standard is kept as the list of its code point ranges.
The tables are small enough to be searched from the front, and a list keeps membership readable in
proofs: a character has the property exactly when one of the ranges spans it.
-/

namespace VisualNovel.Text

/-- Inclusive ranges of code points, in increasing order. -/
abbrev RangeTable := List (Nat × Nat)

/-- Whether one of the ranges spans the character. -/
def RangeTable.contains (table : RangeTable) (c : Char) : Bool :=
  table.any fun (first, last) => first ≤ c.toNat && c.toNat ≤ last

theorem RangeTable.contains_iff {table : RangeTable} {c : Char} :
    table.contains c = true ↔ ∃ range ∈ table, range.1 ≤ c.toNat ∧ c.toNat ≤ range.2 := by
  simp [RangeTable.contains]

end VisualNovel.Text
