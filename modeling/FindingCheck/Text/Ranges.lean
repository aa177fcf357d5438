/-!
# Sets of characters given by ranges

The character properties of the Unicode standard are published as tables of code point ranges.
`Ranges` is such a table and `Ranges.contains` reads it.

## Main definitions

* `Ranges` — a table of inclusive code point ranges
* `Ranges.contains` — membership of a character
-/

namespace FindingCheck

/-- A set of characters as inclusive ranges of code points, ascending and apart. -/
abbrev Ranges := List (Nat × Nat)

namespace Ranges

/-- A character is in the set when some range holds its code point. -/
def contains (ranges : Ranges) (c : Char) : Bool :=
  ranges.any fun range => decide (range.1 ≤ c.toNat) && decide (c.toNat ≤ range.2)

theorem contains_iff {ranges : Ranges} {c : Char} :
    ranges.contains c = true ↔ ∃ range ∈ ranges, range.1 ≤ c.toNat ∧ c.toNat ≤ range.2 := by
  simp [contains]

end Ranges

end FindingCheck
