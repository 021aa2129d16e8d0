import ModelForge.CSharp.Generator

/-! What both layouts are filled in with for a model, and the named values that stand for it. -/

namespace ModelForge.CSharp

open DeclaredType (Classifier)

structure MapperContents where
  method : Value
  source : String
  target : String
  parameter : String
  assignments : List (String × Option Value)

structure Contents where
  header : Option String
  indent : String
  entity : Shape
  dto : Shape
  mapperClass : String
  toDto : MapperContents
  toEntity : MapperContents

def shapeContents (settings : Settings) (s : Shape) : Shape :=
  ⟨identifier settings s.className, s.space, s.members.map fun m => ⟨identifier settings m.name, m.type⟩⟩

def mapperContents (settings : Settings) (m : Mapper) : MapperContents :=
  ⟨m.method, identifier settings m.source, identifier settings m.target, m.parameter,
    m.assignments.map fun a => (identifier settings a.name, m.nested a)⟩

def contents (settings : Settings) (c : Classifier) (s : Schema) : Except Mismatch Contents := do
  let (entity, dto) ← s.shapes settings
  let mappers := s.mappers settings c
  if let some m := s.refusal c then throw m
  let indent ← settings.indent
  return {
    header := if (settings.get .addComments).isSet then some header else none
    indent
    entity := shapeContents settings entity
    dto := shapeContents settings dto
    mapperClass := mappers.className
    toDto := mapperContents settings mappers.toDto
    toEntity := mapperContents settings mappers.toEntity }

def textOrNull (t : Option String) : Value := (t.map .text).getD .null

def memberValue (m : Member) : Value := .object [("name", .text m.name), ("type", textOrNull m.type)]

def shapeValue (s : Shape) : Value :=
  .object [("class_name", .text s.className), ("namespace", .text s.space), ("members", .list (s.members.map memberValue))]

def assignmentValue (a : String × Option Value) : Value :=
  .object [("name", .text a.1), ("nested_method", a.2.getD .null)]

def MapperContents.value (m : MapperContents) : Value :=
  .object [("method_name", m.method), ("source_type", .text m.source), ("target_type", .text m.target),
    ("parameter", .text m.parameter), ("assignments", .list (m.assignments.map assignmentValue))]

def Contents.context (k : Contents) : List (String × Value) :=
  [("header", textOrNull k.header), ("indent", .text k.indent), ("entity", shapeValue k.entity), ("dto", shapeValue k.dto),
    ("mapper_class", .text k.mapperClass), ("mappers", .list [k.toDto.value, k.toEntity.value])]

end ModelForge.CSharp
