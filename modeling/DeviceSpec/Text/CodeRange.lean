/-!
# Ranges of code points

Properties of characters are tables of code point ranges, in order and without overlap.
-/

namespace DeviceSpec.Text

/-- First and last code point of a range. -/
abbrev CodeRange := Nat × Nat

/-- The code point lies in one of the ranges. -/
def inRanges (ranges : Array CodeRange) (n : Nat) : Bool :=
  ranges.any (fun r => decide (r.1 ≤ n) && decide (n ≤ r.2))

/-- A code point lies in a table exactly when one of its ranges holds it. -/
theorem inRanges_iff {ranges : Array CodeRange} {n : Nat} :
    inRanges ranges n = true ↔ ∃ r ∈ ranges, r.1 ≤ n ∧ n ≤ r.2 := by
  simp [inRanges, Array.any_eq_true', -Array.any_eq_true, -Prod.exists]

end DeviceSpec.Text
