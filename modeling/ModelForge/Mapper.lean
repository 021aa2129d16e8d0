import ModelForge.Shape
import ModelForge.DeclaredType

/-! The two conversions between the classes of a model. Only shared fields take part; each direction judges a field by
the type on the side that it writes. -/

namespace ModelForge

open DeclaredType (Classifier)

structure Assignment where
  name : String
  type : Option String
  kind : DeclaredType.Kind
  deriving DecidableEq, Repr

structure Mapper where
  method : Value
  source : String
  target : String
  parameter : String
  assignments : List Assignment

/-- A composite value is converted by the method of the same name on its own type. -/
def Mapper.nested (m : Mapper) (a : Assignment) : Option Value :=
  match a.kind with
  | .simple => none
  | .composite => some m.method

def Mapper.assignedNames (m : Mapper) : List String := m.assignments.map (·.name)

structure MapperPair where
  className : String
  toDto : Mapper
  toEntity : Mapper

namespace Schema

def assignments (s : Schema) (c : Classifier) (type : Field → Option String) : List Assignment :=
  s.sharedFields.map fun f => ⟨f.name, type f, c.classifyOptional (type f)⟩

def mappers (s : Schema) (settings : Settings) (c : Classifier) : MapperPair where
  className := s.name ++ settings.shown .mapperSuffix
  toDto := ⟨settings.get .toDtoMethod, s.name, s.dtoName settings, "entity", s.assignments c (·.dtoType)⟩
  toEntity := ⟨settings.get .toEntityMethod, s.dtoName settings, s.name, "dto", s.assignments c (·.entityType)⟩

def refusal (s : Schema) (c : Classifier) : Option Mismatch :=
  s.sharedFields.findSome? fun f => c.refusal f.dtoType <|> c.refusal f.entityType

end Schema

theorem Schema.length_assignments (s : Schema) (c : Classifier) (type : Field → Option String) :
    (s.assignments c type).length = s.sharedFields.length := by
  simp [Schema.assignments]

end ModelForge
