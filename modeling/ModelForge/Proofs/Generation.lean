import ModelForge.CSharp.Generator
import ModelForge.Proofs.Succeeding
import ModelForge.Proofs.TypedSettings

/-! With well-typed settings the generator exists, and what it makes of a model is given in closed form: the two pages, and
from each of them one source text. Without a count for an indent there are no pages. -/

namespace ModelForge

namespace DeclaredType

theorem members_texts (ts : List String) : members (ts.map .text) = .ok ts := by
  induction ts with
  | nil => rfl
  | cons t ts ih => rw [List.map_cons, members, ih]; rfl

theorem beginnings_texts (ts : List String) : beginnings (ts.map .text) = (ts, none) := by
  induction ts with
  | nil => rfl
  | cons t ts ih => rw [List.map_cons, beginnings, ih]

def Classifier.extended (types starts : List String) : Classifier :=
  ⟨builtins ++ types, sequencePrefixes ++ starts, arraySuffix, none⟩

theorem Classifier.ofValues_texts (types starts : List String) :
    ofValues (.list (types.map .text)) (.list (starts.map .text)) = .ok (extended types starts) := by
  unfold ofValues
  split
  · next h =>
    have he : types = [] ∧ starts = [] := by simpa [Value.isSet] using h
    rw [he.1, he.2]
    rfl
  · simp only [Value.elements, bind, Except.bind, members_texts, beginnings_texts]
    rfl

theorem Classifier.refusal_of_sound {c : Classifier} (h : c.broken = none) (t : Option String) : c.refusal t = none := by
  rw [refusal, h, ite_self]

end DeclaredType

open DeclaredType (Classifier)

theorem Schema.refusal_of_sound {c : Classifier} (h : c.broken = none) (s : Schema) : s.refusal c = none := by
  rw [refusal, List.findSome?_eq_none_iff]
  intro f _
  rw [Classifier.refusal_of_sound h, Classifier.refusal_of_sound h]
  rfl

namespace CSharp

variable {settings : Settings} {c : Classifier} {entitySpace dtoSpace indent lineEnd : String}

def topOf (settings : Settings) : Option String := if (settings.get .addComments).isSet then some header else none

def entityPage (settings : Settings) (s : Schema) (space indent : String) : Source.EntityPage :=
  ⟨topOf settings, space, block settings ⟨s.name, space, s.entityMembers⟩, indent⟩

def dtoPage (settings : Settings) (c : Classifier) (s : Schema) (used space indent : String) : Source.DtoPage :=
  ⟨topOf settings, used, space, block settings ⟨s.dtoName settings, space, s.dtoMembers⟩,
    (s.mappers settings c).className,
    [mapperBlock settings (s.mappers settings c).toDto, mapperBlock settings (s.mappers settings c).toEntity], indent⟩

theorem pages_eq (hc : c.broken = none) (he : settings.entityPath = .ok entitySpace)
    (hd : settings.dtoPath = .ok dtoSpace) (hi : settings.indent = .ok indent) (s : Schema) :
    pages settings c s =
      .ok (entityPage settings s entitySpace indent, dtoPage settings c s entitySpace dtoSpace indent) := by
  simp only [pages, Schema.shapes, he, hd, hi, Schema.refusal_of_sound hc, bind, Except.bind, pure, Except.pure]
  rfl

theorem pages_error {m : Mismatch} (hc : c.broken = none) (he : settings.entityPath = .ok entitySpace)
    (hd : settings.dtoPath = .ok dtoSpace) (hi : settings.indent = .error m) (s : Schema) :
    pages settings c s = .error m := by
  simp only [pages, Schema.shapes, he, hd, hi, Schema.refusal_of_sound hc, bind, Except.bind, pure, Except.pure]

theorem eq_of_pages {s : Schema} {entity : Source.EntityPage} {dto : Source.DtoPage}
    (h : pages settings c s = .ok (entity, dto)) :
    ∃ entitySpace dtoSpace indent, settings.entityPath = .ok entitySpace ∧ settings.dtoPath = .ok dtoSpace ∧
      entity = entityPage settings s entitySpace indent ∧
      dto = dtoPage settings c s entitySpace dtoSpace indent := by
  obtain ⟨shapes, hs, h⟩ := exists_of_bind_eq_ok h
  obtain ⟨entitySpace, he, hs⟩ := exists_of_bind_eq_ok hs
  obtain ⟨dtoSpace, hd, hs⟩ := exists_of_bind_eq_ok hs
  cases hs
  dsimp only at h
  split at h
  · cases h
  · obtain ⟨indent, -, h⟩ := exists_of_bind_eq_ok h
    cases h
    exact ⟨entitySpace, dtoSpace, indent, he, hd, rfl, rfl⟩

theorem artifacts_eq (hc : c.broken = none) (he : settings.entityPath = .ok entitySpace)
    (hd : settings.dtoPath = .ok dtoSpace) (hi : settings.indent = .ok indent) (hl : settings.lineEnding = .ok lineEnd)
    (s : Schema) :
    artifacts settings c s =
      .ok [⟨entityFile settings s.name, sourceText lineEnd (entityPage settings s entitySpace indent).render⟩,
        ⟨dtoFile settings s.name, sourceText lineEnd (dtoPage settings c s entitySpace dtoSpace indent).render⟩] := by
  simp only [artifacts, pages_eq hc he hd hi, hl, bind, Except.bind, pure, Except.pure]

theorem eq_of_artifacts {s : Schema} {as : List Artifact} (h : artifacts settings c s = .ok as) :
    ∃ entitySpace dtoSpace indent lineEnd, settings.entityPath = .ok entitySpace ∧ settings.dtoPath = .ok dtoSpace ∧
      settings.get .lineEnding = .text lineEnd ∧
      as = [⟨entityFile settings s.name, sourceText lineEnd (entityPage settings s entitySpace indent).render⟩,
        ⟨dtoFile settings s.name, sourceText lineEnd (dtoPage settings c s entitySpace dtoSpace indent).render⟩] := by
  obtain ⟨⟨entity, dto⟩, hp, h⟩ := exists_of_bind_eq_ok h
  obtain ⟨lineEnd, hl, h⟩ := exists_of_bind_eq_ok h
  cases h
  obtain ⟨entitySpace, dtoSpace, indent, he, hd, rfl, rfl⟩ := eq_of_pages hp
  refine ⟨entitySpace, dtoSpace, indent, lineEnd, he, hd, ?_, rfl⟩
  unfold Settings.lineEnding at hl
  split at hl
  · next t ht =>
    cases hl
    exact ht
  · cases hl

def generator (settings : Settings) (c : Classifier) : Generator :=
  { language := "csharp", settings, warnings := check settings, generate := generate .shipped settings c }

theorem generate_eq (hc : c.broken = none) (he : settings.entityPath = .ok entitySpace)
    (hd : settings.dtoPath = .ok dtoSpace) (hi : settings.indent = .ok indent) (hl : settings.lineEnding = .ok lineEnd)
    (s : Schema) :
    (generator settings c).generate s =
      .ok [⟨entityFile settings s.name, sourceText lineEnd (entityPage settings s entitySpace indent).render⟩,
        ⟨dtoFile settings s.name, sourceText lineEnd (dtoPage settings c s entitySpace dtoSpace indent).render⟩] :=
  congrArg (Except.mapError GenerationError.mismatch) (artifacts_eq hc he hd hi hl s)

/-- All models have their pages in the same namespaces, with the same indent and the same line ends. -/
theorem exists_generate_eq (h : settings.WellTyped) (hi : settings.IsIndexSized) (hc : c.broken = none) :
    ∃ entitySpace dtoSpace indent lineEnd, ∀ s,
      pages settings c s =
        .ok (entityPage settings s entitySpace indent, dtoPage settings c s entitySpace dtoSpace indent) ∧
      (generator settings c).generate s =
        .ok [⟨entityFile settings s.name, sourceText lineEnd (entityPage settings s entitySpace indent).render⟩,
          ⟨dtoFile settings s.name, sourceText lineEnd (dtoPage settings c s entitySpace dtoSpace indent).render⟩] := by
  obtain ⟨entitySpace, he⟩ := h.entityPath_eq
  obtain ⟨dtoSpace, hd⟩ := h.dtoPath_eq
  obtain ⟨k, hi⟩ := h.indent_eq hi
  obtain ⟨lineEnd, hl⟩ := h.lineEnding_eq
  exact ⟨_, _, _, _, fun s => ⟨pages_eq hc he hd hi s, generate_eq hc he hd hi hl s⟩⟩

theorem pages_overflow (h : settings.WellTyped) (hc : c.broken = none) (hi : ¬ settings.IsIndexSized) (s : Schema) :
    pages settings c s = .error .notIndexSized := by
  obtain ⟨entitySpace, he⟩ := h.entityPath_eq
  obtain ⟨dtoSpace, hd⟩ := h.dtoPath_eq
  exact pages_error hc he hd (h.indent_error hi) s

theorem generate_overflow (h : settings.WellTyped) (hc : c.broken = none) (hi : ¬ settings.IsIndexSized) (s : Schema) :
    (generator settings c).generate s = .error (.mismatch .notIndexSized) := by
  have ha : artifacts settings c s = .error .notIndexSized := by
    rw [artifacts, pages_overflow h hc hi]
    rfl
  exact congrArg (Except.mapError GenerationError.mismatch) ha

theorem create_of_ofValues
    (h : Classifier.ofValues (settings.get .extraSimpleTypes) (settings.get .extraCollectionPrefixes) = .ok c) :
    create .shipped settings = .ok (generator settings c) := by
  rw [create, h]
  rfl

theorem exists_ofValues (h : settings.WellTyped) :
    ∃ c, Classifier.ofValues (settings.get .extraSimpleTypes) (settings.get .extraCollectionPrefixes) = .ok c ∧
      c.broken = none := by
  obtain ⟨types, ht⟩ := h.texts .extraSimpleTypes rfl
  obtain ⟨starts, hs⟩ := h.texts .extraCollectionPrefixes rfl
  rw [ht, hs]
  exact ⟨_, Classifier.ofValues_texts types starts, rfl⟩

theorem create_eq (h : settings.WellTyped) :
    ∃ c, c.broken = none ∧ create .shipped settings = .ok (generator settings c) := by
  obtain ⟨c, hc, hb⟩ := exists_ofValues h
  exact ⟨c, hb, create_of_ofValues hc⟩

theorem eq_generator_of_create {g : Generator} (h : generatorClass.create settings = .ok g) :
    ∃ c, g = generator settings c := by
  obtain ⟨c, -, h⟩ := exists_of_bind_eq_ok h
  exact ⟨c, (Except.ok.inj h).symm⟩

theorem length_entityPage_members (s : Schema) (space indent : String) :
    (entityPage settings s space indent).block.members.length = s.entityFields.length := by
  simp [entityPage, block, Schema.entityMembers]

theorem length_dtoPage_members (s : Schema) (used space indent : String) :
    (dtoPage settings c s used space indent).block.members.length = s.dtoFields.length := by
  simp [dtoPage, block, Schema.dtoMembers]

theorem length_dtoPage_assignments {s : Schema} {used space indent : String} {m : Source.MapperBlock}
    (h : m ∈ (dtoPage settings c s used space indent).mappers) : m.assignments.length = s.sharedFields.length := by
  simp only [dtoPage, List.mem_cons, List.not_mem_nil, or_false] at h
  rcases h with rfl | rfl <;> simp [mapperBlock, Schema.mappers, Schema.length_assignments]

end CSharp

end ModelForge
