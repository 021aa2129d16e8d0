import ModelForge.Generator

/-! File names that stand for more than one artifact. -/

namespace ModelForge

/-- Ascending, without repetition. -/
def duplicates (names : List String) : List String :=
  (names.filter fun n => 1 < names.count n).eraseDups.mergeSort fun a b => decide (a ≤ b)

end ModelForge
