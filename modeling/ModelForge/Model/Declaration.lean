/-! One property of a model document, as declared. -/

namespace ModelForge

structure Declaration where
  name : String
  type : String
  inEntity : Bool
  inDto : Bool
  deriving DecidableEq, Repr

/-- A flag is set by the two spellings of true and by nothing else. -/
def flag (value : Option String) : Bool := value == some "true" || value == some "True"

theorem flag_eq_true_iff {value : Option String} :
    flag value = true ↔ value = some "true" ∨ value = some "True" := by
  simp [flag]

end ModelForge
