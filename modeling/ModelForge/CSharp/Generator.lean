import ModelForge.CSharp.Check
import ModelForge.Generator
import ModelForge.Mapper
import ModelForge.Source.Layout
import ModelForge.Source.Tidy

/-! The C# generator: one file with the entity class, one with the data transfer class and both mappers. -/

namespace ModelForge.CSharp

open DeclaredType (Classifier)

def header : String := "<auto-generated />\nGenerated by xml-modelgen. Changes to this file will be lost."

def entityFile (settings : Settings) (name : String) : String := name ++ ".Entity" ++ settings.shown .fileExtension

def dtoFile (settings : Settings) (name : String) : String := name ++ ".DTO" ++ settings.shown .fileExtension

def identifier (settings : Settings) (name : String) : String :=
  if (settings.get .escapeKeywords).isSet then Identifier.verbatim name else name

def block (settings : Settings) (s : Shape) : Source.ClassBlock :=
  ⟨identifier settings s.className, s.members.map fun m => ⟨Field.typeText m.type, identifier settings m.name⟩⟩

def assignmentLine (settings : Settings) (m : Mapper) (a : Assignment) : Source.AssignmentLine :=
  ⟨identifier settings a.name, (m.nested a).bind fun v => if v.isSet then some v.display else none⟩

def mapperBlock (settings : Settings) (m : Mapper) : Source.MapperBlock :=
  ⟨identifier settings m.target, m.method.display, identifier settings m.source, m.parameter,
    m.assignments.map (assignmentLine settings m)⟩

def pages (settings : Settings) (c : Classifier) (s : Schema) :
    Except Mismatch (Source.EntityPage × Source.DtoPage) := do
  let (entity, dto) ← s.shapes settings
  let mappers := s.mappers settings c
  if let some m := s.refusal c then throw m
  let top := if (settings.get .addComments).isSet then some header else none
  let indent ← settings.indent
  return (⟨top, entity.space, block settings entity, indent⟩,
    ⟨top, entity.space, dto.space, block settings dto, mappers.className,
      [mapperBlock settings mappers.toDto, mapperBlock settings mappers.toEntity], indent⟩)

def sourceText (lineEnd page : String) : String := String.ofList (Source.tidy lineEnd.toList page.toList)

def artifacts (settings : Settings) (c : Classifier) (s : Schema) : Except Mismatch (List Artifact) := do
  let (entity, dto) ← pages settings c s
  let lineEnd ← settings.lineEnding
  return [⟨entityFile settings s.name, sourceText lineEnd entity.render⟩,
    ⟨dtoFile settings s.name, sourceText lineEnd dto.render⟩]

def generate (store : Source.LayoutStore) (settings : Settings) (c : Classifier) (s : Schema) :
    Except GenerationError (List Artifact) :=
  match store with
  | .missing directory => .error (.layoutsMissing directory)
  | .shipped => (artifacts settings c s).mapError .mismatch

def create (store : Source.LayoutStore) (settings : Settings) : Except Mismatch Generator := do
  let c ← Classifier.ofValues (settings.get .extraSimpleTypes) (settings.get .extraCollectionPrefixes)
  return { language := "csharp", settings, warnings := check settings, generate := generate store settings c }

def generatorClass : GeneratorClass := ⟨"CSharpGenerator", create .shipped⟩

end ModelForge.CSharp
