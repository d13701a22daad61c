/-!
# Character classes given by ranges

A property of characters is listed as closed ranges of code points. Membership scans the list, so
a table is plain data and every question about one character can be evaluated.
-/

namespace SeriesFilter.Text

/-- Whether a code point lies in one of the closed ranges. -/
def inRanges (ranges : List (Nat × Nat)) (code : Nat) : Bool :=
  ranges.any fun range ↦ range.1 ≤ code && code ≤ range.2

/-- Membership in a range list is membership in one of its ranges. -/
theorem inRanges_iff {ranges : List (Nat × Nat)} {code : Nat} :
    inRanges ranges code = true ↔ ∃ range ∈ ranges, range.1 ≤ code ∧ code ≤ range.2 := by
  simp [inRanges]

end SeriesFilter.Text
