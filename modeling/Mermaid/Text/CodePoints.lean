/-!
# Sets of code points

A character class of the Unicode standard is kept as the ascending list of its ranges, each given
by its first and its last code point.
-/

namespace Mermaid.Text

/-- Ascending, disjoint ranges of code points, each as its first and last member. -/
abbrev CodePoints := List (Nat × Nat)

/-- Whether a code point lies in one of the ranges; the search stops at the first range above it. -/
def CodePoints.contains : CodePoints → Nat → Bool
  | [], _ => false
  | (low, high) :: rest, n =>
    if n < low then false
    else if n ≤ high then true
    else CodePoints.contains rest n

end Mermaid.Text
