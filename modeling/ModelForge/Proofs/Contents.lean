import ModelForge.CSharp.Contents
import ModelForge.Proofs.Generation

/-! With well-typed settings the contents of a model are given in closed form, and the pages that the layouts make of them
are the pages of the model. -/

namespace ModelForge

open DeclaredType (Classifier)

namespace CSharp

variable {settings : Settings} {c : Classifier} {entitySpace dtoSpace indent : String} {k : Contents}

def contentsOf (settings : Settings) (c : Classifier) (s : Schema) (entitySpace dtoSpace indent : String) : Contents where
  header := topOf settings
  indent := indent
  entity := shapeContents settings ⟨s.name, entitySpace, s.entityMembers⟩
  dto := shapeContents settings ⟨s.dtoName settings, dtoSpace, s.dtoMembers⟩
  mapperClass := (s.mappers settings c).className
  toDto := mapperContents settings (s.mappers settings c).toDto
  toEntity := mapperContents settings (s.mappers settings c).toEntity

theorem contents_eq (hc : c.broken = none) (he : settings.entityPath = .ok entitySpace)
    (hd : settings.dtoPath = .ok dtoSpace) (hi : settings.indent = .ok indent) (s : Schema) :
    contents settings c s = .ok (contentsOf settings c s entitySpace dtoSpace indent) := by
  simp only [contents, Schema.shapes, he, hd, hi, Schema.refusal_of_sound hc, bind, Except.bind, pure, Except.pure]
  rfl

theorem contents_overflow (h : settings.WellTyped) (hc : c.broken = none) (hi : ¬ settings.IsIndexSized) (s : Schema) :
    contents settings c s = .error .notIndexSized := by
  obtain ⟨entitySpace, he⟩ := h.entityPath_eq
  obtain ⟨dtoSpace, hd⟩ := h.dtoPath_eq
  simp only [contents, Schema.shapes, he, hd, h.indent_error hi, Schema.refusal_of_sound hc, bind, Except.bind, pure,
    Except.pure]

open Source (EntityPage DtoPage ClassBlock MemberLine MapperBlock AssignmentLine)

theorem display_textOrNull (t : Option String) : (textOrNull t).display = Field.typeText t := by
  cases t with
  | none => rfl
  | some t => exact Value.display_text t

theorem headerOf_context (h : k.header ≠ some "") : Source.headerOf k.context = .ok k.header := by
  have hl : Source.lookup k.context "header" = .ok (textOrNull k.header) := rfl
  rw [Source.headerOf, hl]
  cases hk : k.header with
  | none => rfl
  | some text =>
    have hs : (textOrNull (some text)).isSet = true := by
      have hne : text ≠ "" := fun he => h (by rw [hk, he])
      simpa [textOrNull, Value.isSet] using hne
    show Except.ok (if (textOrNull (some text)).isSet then some (textOrNull (some text)).display else none) = _
    rw [if_pos hs, display_textOrNull]
    rfl

theorem memberLine_ofValue (m : Member) :
    MemberLine.ofValue k.context (memberValue m) = .ok ⟨Field.typeText m.type, m.name⟩ := by
  have hi : Source.indentOf k.context = .ok k.indent := rfl
  have ht : Source.shownPart (memberValue m) "type" = .ok (Field.typeText m.type) := by
    rw [← display_textOrNull]
    rfl
  have hn : Source.shownPart (memberValue m) "name" = .ok m.name := rfl
  rw [MemberLine.ofValue, hi, ht, hn]
  rfl

theorem classBlock_ofValue (s : Shape) :
    ClassBlock.ofValue k.context (shapeValue s) =
      .ok ⟨s.className, s.members.map fun m => ⟨Field.typeText m.type, m.name⟩⟩ := by
  have hn : Source.shownPart (shapeValue s) "class_name" = .ok s.className := rfl
  have hm : Source.part (shapeValue s) "members" = .ok (.list (s.members.map memberValue)) := rfl
  have he : Source.elements (.list (s.members.map memberValue)) = .ok (s.members.map memberValue) := rfl
  rw [ClassBlock.ofValue, hn, hm]
  simp only [bind, Except.bind, he, mapM_map_eq_ok memberLine_ofValue]
  rfl

def shownMethod (nested : Option Value) : Option String := nested.bind fun v => if v.isSet then some v.display else none

theorem assignmentLine_ofValue (a : String × Option Value) :
    AssignmentLine.ofValue (assignmentValue a) = .ok ⟨a.1, shownMethod a.2⟩ := by
  have hn : Source.shownPart (assignmentValue a) "name" = .ok a.1 := rfl
  have hm : Source.part (assignmentValue a) "nested_method" = .ok (a.2.getD .null) := rfl
  rw [AssignmentLine.ofValue, hn, hm]
  obtain ⟨name, nested⟩ := a
  cases nested <;> rfl

theorem mapperBlock_ofValue (m : MapperContents) :
    MapperBlock.ofValue k.context m.value =
      .ok ⟨m.target, m.method.display, m.source, m.parameter, m.assignments.map fun a => ⟨a.1, shownMethod a.2⟩⟩ := by
  have hi : Source.indentOf k.context = .ok k.indent := rfl
  have ht : Source.shownPart m.value "target_type" = .ok m.target := rfl
  have hm : Source.shownPart m.value "method_name" = .ok m.method.display := rfl
  have hs : Source.shownPart m.value "source_type" = .ok m.source := rfl
  have hp : Source.shownPart m.value "parameter" = .ok m.parameter := rfl
  have ha : Source.part m.value "assignments" = .ok (.list (m.assignments.map assignmentValue)) := rfl
  have he : Source.elements (.list (m.assignments.map assignmentValue)) = .ok (m.assignments.map assignmentValue) := rfl
  rw [MapperBlock.ofValue, hi, ht, hm, hs, hp, ha]
  simp only [bind, Except.bind, he, mapM_map_eq_ok assignmentLine_ofValue]
  rfl

theorem topOf_ne (settings : Settings) : topOf settings ≠ some "" := by
  unfold topOf
  split
  · decide
  · nofun

theorem headerOf_contentsOf (settings : Settings) (c : Classifier) (s : Schema) (entitySpace dtoSpace indent : String) :
    Source.headerOf (contentsOf settings c s entitySpace dtoSpace indent).context = .ok (topOf settings) :=
  headerOf_context (topOf_ne settings)

theorem entityPage_ofContext (settings : Settings) (c : Classifier) (s : Schema) (entitySpace dtoSpace indent : String) :
    EntityPage.ofContext (contentsOf settings c s entitySpace dtoSpace indent).context =
      .ok (entityPage settings s entitySpace indent) := by
  have hh := headerOf_contentsOf settings c s entitySpace dtoSpace indent
  generalize hk : contentsOf settings c s entitySpace dtoSpace indent = k at hh ⊢
  have he : Source.lookup k.context "entity" = .ok (shapeValue k.entity) := rfl
  have hs : Source.shownPart (shapeValue k.entity) "namespace" = .ok k.entity.space := rfl
  rw [EntityPage.ofContext, hh, he]
  simp only [bind, Except.bind, hs, classBlock_ofValue]
  rw [← hk]
  simp only [entityPage, block, contentsOf, shapeContents, List.map_map]
  rfl

theorem dtoPage_ofContext (settings : Settings) (c : Classifier) (s : Schema) (entitySpace dtoSpace indent : String) :
    DtoPage.ofContext (contentsOf settings c s entitySpace dtoSpace indent).context =
      .ok (dtoPage settings c s entitySpace dtoSpace indent) := by
  have hh := headerOf_contentsOf settings c s entitySpace dtoSpace indent
  generalize hk : contentsOf settings c s entitySpace dtoSpace indent = k at hh ⊢
  have he : Source.lookup k.context "entity" = .ok (shapeValue k.entity) := rfl
  have hu : Source.shownPart (shapeValue k.entity) "namespace" = .ok k.entity.space := rfl
  have hd : Source.lookup k.context "dto" = .ok (shapeValue k.dto) := rfl
  have hs : Source.shownPart (shapeValue k.dto) "namespace" = .ok k.dto.space := rfl
  have hc : Source.lookup k.context "mapper_class" = .ok (.text k.mapperClass) := rfl
  have hm : Source.lookup k.context "mappers" = .ok (.list [k.toDto.value, k.toEntity.value]) := rfl
  have hl : Source.elements (.list [k.toDto.value, k.toEntity.value]) = .ok [k.toDto.value, k.toEntity.value] := rfl
  rw [DtoPage.ofContext, hh, he]
  simp only [bind, Except.bind, hu, hd, hs, hc, hm, hl, classBlock_ofValue, List.mapM_cons, List.mapM_nil, mapperBlock_ofValue,
    pure, Except.pure, Except.map]
  rw [← hk]
  simp only [dtoPage, block, contentsOf, shapeContents, mapperContents, mapperBlock, List.map_map]
  rfl

end CSharp

end ModelForge
