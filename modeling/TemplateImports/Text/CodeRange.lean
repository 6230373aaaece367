/-!
# Ranges of code points

Character classes are tables of closed code-point ranges.  This module holds the membership test.

Main results:

- Theorem `inRanges_iff` reads the test as an existence statement about the table.
-/

namespace TemplateImports.Text

/-- Whether a code point lies in one of the closed ranges. -/
def inRanges (ranges : List (Nat × Nat)) (n : Nat) : Bool :=
  ranges.any fun r => r.1 ≤ n && n ≤ r.2

/-- A code point is in a table exactly when some range of it holds the code point. -/
theorem inRanges_iff {ranges : List (Nat × Nat)} {n : Nat} :
    inRanges ranges n = true ↔ ∃ r ∈ ranges, r.1 ≤ n ∧ n ≤ r.2 := by
  simp [inRanges]

end TemplateImports.Text
