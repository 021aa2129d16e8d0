import ModelForge.Model.Schema
import ModelForge.Settings.Basic

/-! The two classes of a model: the fields flagged for a side become its members, each with that side's type. -/

namespace ModelForge

structure Member where
  name : String
  type : Option String
  deriving DecidableEq, Repr

structure Shape where
  className : String
  space : String
  members : List Member
  deriving DecidableEq, Repr

namespace Schema

def entityMembers (s : Schema) : List Member := s.entityFields.map fun f => ⟨f.name, f.entityType⟩

def dtoMembers (s : Schema) : List Member := s.dtoFields.map fun f => ⟨f.name, f.dtoType⟩

def dtoName (s : Schema) (settings : Settings) : String := s.name ++ settings.shown .dtoSuffix

def shapes (s : Schema) (settings : Settings) : Except Mismatch (Shape × Shape) := do
  let entitySpace ← settings.entityPath
  let dtoSpace ← settings.dtoPath
  return (⟨s.name, entitySpace, s.entityMembers⟩, ⟨s.dtoName settings, dtoSpace, s.dtoMembers⟩)

end Schema

def Shape.memberNames (s : Shape) : List String := s.members.map (·.name)

end ModelForge
