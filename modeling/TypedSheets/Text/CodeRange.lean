/-!
# Sets of characters given by ranges of code points

The standard's character properties are large but regular, so a property is kept
as closed ranges in ascending order. Membership is a scan; the tables hold only
code points above the ASCII block, and every property decides ASCII by a rule of
its own before it consults a table.
-/

namespace TypedSheets.Text

/-- Closed ranges of code points, in ascending order. -/
abbrev CodeRanges := List (Nat × Nat)

/-- A code point is covered when one of the ranges holds it. -/
def CodeRanges.covers (ranges : CodeRanges) (code : Nat) : Bool :=
  ranges.any fun range => range.1 ≤ code && code ≤ range.2

/-- A point below every range is not covered. -/
theorem CodeRanges.covers_of_below (ranges : CodeRanges) (code : Nat)
    (below : ∀ range ∈ ranges, code < range.1) : ranges.covers code = false := by
  simp only [CodeRanges.covers, List.any_eq_false, Bool.and_eq_true, decide_eq_true_eq, not_and]
  intro range member reached
  exact absurd (below range member) (Nat.not_lt.mpr reached)

end TypedSheets.Text
