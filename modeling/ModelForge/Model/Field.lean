import ModelForge.Model.Declaration

/-! All declarations of one name, reconciled into one field: flags add up, and on each side the last declaration flagged
for it gives the type. -/

namespace ModelForge

structure Field where
  name : String
  entityType : Option String
  dtoType : Option String
  inEntity : Bool
  inDto : Bool
  deriving DecidableEq, Repr

namespace Field

def ofDeclaration (d : Declaration) : Field where
  name := d.name
  entityType := if d.inEntity then some d.type else none
  dtoType := if d.inDto then some d.type else none
  inEntity := d.inEntity
  inDto := d.inDto

def merge (f : Field) (d : Declaration) : Field where
  name := f.name
  entityType := if d.inEntity then some d.type else f.entityType
  dtoType := if d.inDto then some d.type else f.dtoType
  inEntity := f.inEntity || d.inEntity
  inDto := f.inDto || d.inDto

def isShared (f : Field) : Bool := f.inEntity && f.inDto

/-- A field is complete when it has a type on each side for which it is flagged, and only there. -/
def Complete (f : Field) : Prop := f.entityType.isSome = f.inEntity ∧ f.dtoType.isSome = f.inDto

end Field

end ModelForge
