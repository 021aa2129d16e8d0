import ModelForge.Model.Schema
import ModelForge.Text.Blank
import ModelForge.Value.Mismatch

/-! Warnings about a model that hold for every target language. -/

namespace ModelForge

/-- A type on one side only cannot be compared. -/
def strippedType : Option String → Except Mismatch String
  | some t => .ok (Text.strip t)
  | none => .error (.noOperation "NoneType" "strip")

namespace Field

def typeText (t : Option String) : String := t.getD "None"

def check (f : Field) (model : String) : Except Mismatch (List String) :=
  if !f.inEntity && !f.inDto then
    .ok ["Field " ++ model ++ "." ++ f.name ++ " is not flagged for entity or DTO and will not be generated"]
  else if f.isShared then do
    let entity ← strippedType f.entityType
    let dto ← strippedType f.dtoType
    if entity = dto then return []
    else
      return ["Field " ++ model ++ "." ++ f.name ++ " has different types: entity '" ++ typeText f.entityType ++
        "', DTO '" ++ typeText f.dtoType ++ "'"]
  else .ok []

theorem check_complete {f : Field} (h : f.Complete) (model : String) : ∃ ws, f.check model = .ok ws := by
  obtain ⟨he, hd⟩ := h
  unfold check
  split
  · exact ⟨_, rfl⟩
  · split
    · next hs =>
      simp only [isShared, Bool.and_eq_true] at hs
      rw [hs.1] at he
      rw [hs.2] at hd
      obtain ⟨e, he⟩ := Option.isSome_iff_exists.1 he
      obtain ⟨d, hd⟩ := Option.isSome_iff_exists.1 hd
      simp only [he, hd, strippedType, bind, Except.bind]
      split <;> exact ⟨_, rfl⟩
    · exact ⟨_, rfl⟩

end Field

def Schema.check (s : Schema) : Except Mismatch (List String) :=
  if s.fields.isEmpty then .ok ["Schema '" ++ s.name ++ "' has no fields"]
  else do
    let sides := (if s.entityFields.isEmpty then ["Schema '" ++ s.name ++ "' has no entity fields"] else []) ++
      (if s.dtoFields.isEmpty then ["Schema '" ++ s.name ++ "' has no DTO fields"] else [])
    let fields ← s.fields.mapM (·.check s.name)
    return sides ++ fields.flatten

end ModelForge
