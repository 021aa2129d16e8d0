import ModelForge.Model.Field

/-! A named model with its reconciled fields, each at the place of its first declaration. -/

namespace ModelForge

/-- Merges the declaration into the field of its name, or appends a new field. -/
def addDeclaration (fields : List Field) (d : Declaration) : List Field :=
  match fields with
  | [] => [.ofDeclaration d]
  | f :: rest => if f.name = d.name then f.merge d :: rest else f :: addDeclaration rest d

def reconcile (ds : List Declaration) : List Field := ds.foldl addDeclaration []

structure Schema where
  name : String
  fields : List Field
  deriving DecidableEq, Repr

namespace Schema

def ofDeclarations (name : String) (ds : List Declaration) : Schema := ⟨name, reconcile ds⟩

/-- Of several fields with one name the last counts, at the place of the first. -/
def ofFields (name : String) (fields : List Field) : Schema :=
  ⟨name, fields.foldl (fun known f =>
    if known.any (·.name == f.name) then known.map (fun g => if g.name = f.name then f else g) else known ++ [f]) []⟩

def entityFields (s : Schema) : List Field := s.fields.filter (·.inEntity)

def dtoFields (s : Schema) : List Field := s.fields.filter (·.inDto)

def sharedFields (s : Schema) : List Field := s.fields.filter (·.isShared)

end Schema

theorem reconcile_concat (ds : List Declaration) (d : Declaration) :
    reconcile (ds ++ [d]) = addDeclaration (reconcile ds) d := by
  simp [reconcile]

end ModelForge
