/-! Sets of code points, given by closed ranges in ascending order. -/

namespace ModelForge.Text

abbrev CodePoints := List (Nat × Nat)

/-- The search stops at the first range that starts beyond the code point. -/
def CodePoints.contains : CodePoints → Nat → Bool
  | [], _ => false
  | (first, last) :: rest, n => if n < first then false else n ≤ last || CodePoints.contains rest n

end ModelForge.Text
