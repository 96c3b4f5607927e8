/-!
# Ranges of code points

Rows of character tables. A range may skip every other code point, since the two cases of a
letter often alternate; a shift is such a range together with its image.
-/

namespace ApiBindings.Text

/-- The code points `first`, `first + step`, and so on up to `last`. -/
structure CharRange where
  first : Nat
  last : Nat
  step : Nat

/-- Membership of a code point in a range. -/
def CharRange.contains (r : CharRange) (point : Nat) : Bool :=
  decide (r.first ≤ point) && decide (point ≤ r.last) && (point - r.first) % r.step == 0

/-- A range moved as a whole so that its first code point lands on `target`. -/
structure CharShift where
  range : CharRange
  target : Nat

/-- The image of a code point, if the shifted range holds it. -/
def CharShift.image? (s : CharShift) (point : Nat) : Option Nat :=
  if s.range.contains point then some (s.target + (point - s.range.first)) else none

/-- Every member of a range lies between its ends. -/
theorem CharRange.bounds_of_contains {r : CharRange} {point : Nat}
    (h : r.contains point = true) : r.first ≤ point ∧ point ≤ r.last := by
  simp only [contains, Bool.and_eq_true, decide_eq_true_eq] at h
  exact h.1

end ApiBindings.Text
