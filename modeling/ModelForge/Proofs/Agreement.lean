import ModelForge.Proofs.Contents
import ModelForge.Proofs.EmittedNames

/-! The classes and the mappers of a model fit together: each mapper sets the members that both classes have, between the
types that both files declare, and judges each of them by its type in the class that it writes. -/

namespace ModelForge

open DeclaredType (Classifier)

namespace Schema

variable {s : Schema}

def commonFields (s : Schema) : List Field :=
  s.fields.filter fun f => s.entityMembers.any (·.name == f.name) && s.dtoMembers.any (·.name == f.name)

theorem any_name_eq (hn : (s.fields.map (·.name)).Nodup) (side : Field → Bool) (type : Field → Option String) {f : Field}
    (hf : f ∈ s.fields) :
    ((s.fields.filter side).map fun g => (⟨g.name, type g⟩ : Member)).any (·.name == f.name) = side f := by
  rw [Bool.eq_iff_iff, List.any_map, List.any_eq_true]
  constructor
  · rintro ⟨g, hg, he⟩
    obtain ⟨hg, hs⟩ := List.mem_filter.1 hg
    have hgf : g = f := List.inj_on_of_nodup_map hn hg hf (by simpa using he)
    exact hgf ▸ hs
  · intro hs
    exact ⟨f, List.mem_filter.2 ⟨hf, hs⟩, by simp⟩

theorem commonFields_eq (hn : (s.fields.map (·.name)).Nodup) : s.commonFields = s.sharedFields := by
  apply List.filter_congr
  intro f hf
  have he : s.entityMembers.any (·.name == f.name) = f.inEntity := any_name_eq hn _ _ hf
  have hd : s.dtoMembers.any (·.name == f.name) = f.inDto := any_name_eq hn _ _ hf
  rw [he, hd]
  rfl

theorem nodup_names_ofDeclarations (name : String) (ds : List Declaration) :
    ((ofDeclarations name ds).fields.map (·.name)).Nodup := by
  have hn : (ofDeclarations name ds).fields.map (·.name) = declaredNames ds := map_name_reconcile ds
  rw [hn]
  exact nodup_declaredNames ds

end Schema

namespace CSharp

variable {settings : Settings} {c : Classifier} {s t : Schema} {entitySpace dtoSpace indent : String}

/-- The field is set as a member that the class has with the type of the field on that side. Its value is converted by the
method of the mapper itself if that type is composite, and copied if it is not. -/
structure Assigns (settings : Settings) (c : Classifier) (type : Field → Option String) (method : Value)
    (members : List Member) (f : Field) (a : String × Option Value) : Prop where
  name : a.1 = identifier settings f.name
  type : ∃ text, type f = some text ∧ ⟨identifier settings f.name, some text⟩ ∈ members ∧
    (a.2 = some method ↔ c.classify text = .composite) ∧ (a.2 = none ↔ c.classify text ≠ .composite)

structure Agrees (settings : Settings) (c : Classifier) (s : Schema) (k : Contents) (entity : Source.EntityPage)
    (dto : Source.DtoPage) : Prop where
  names : k.toDto.assignments.map Prod.fst = k.toEntity.assignments.map Prod.fst
  toDto : List.Forall₂ (Assigns settings c (·.dtoType) k.toDto.method k.dto.members) s.commonFields k.toDto.assignments
  toEntity : List.Forall₂ (Assigns settings c (·.entityType) k.toEntity.method k.entity.members) s.commonFields
    k.toEntity.assignments
  entityName : k.toDto.source = entity.block.name ∧ k.toEntity.target = entity.block.name
  dtoName : k.toDto.target = dto.block.name ∧ k.toEntity.source = dto.block.name
  used : dto.used = entity.space

theorem assignments_eq (m : Mapper) (type : Field → Option String) (hm : m.assignments = s.assignments c type) :
    (mapperContents settings m).assignments = s.sharedFields.map fun f =>
      (identifier settings f.name, m.nested ⟨f.name, type f, c.classifyOptional (type f)⟩) := by
  rw [mapperContents, hm, Schema.assignments, List.map_map]
  rfl

theorem nested_eq (m : Mapper) (name text : String) :
    m.nested ⟨name, some text, c.classifyOptional (some text)⟩ =
      if c.classify text = .composite then some m.method else none := by
  have hk : c.classifyOptional (some text) = c.classify text := rfl
  rw [hk]
  cases c.classify text <;> rfl

theorem forall₂_assigns {m : Mapper} {type : Field → Option String} {side : Field → Bool} {shape : Shape}
    (hm : m.assignments = s.assignments c type)
    (hs : shape.members = (s.fields.filter side).map fun f => ⟨f.name, type f⟩)
    (hf : ∀ f ∈ s.sharedFields, side f = true ∧ ∃ text, type f = some text) :
    List.Forall₂ (Assigns settings c type m.method (shapeContents settings shape).members) s.sharedFields
      (mapperContents settings m).assignments := by
  rw [assignments_eq m type hm, List.forall₂_map_right_iff]
  apply List.forall₂_same.2
  intro f hshared
  obtain ⟨hside, text, ht⟩ := hf f hshared
  have hn := nested_eq (c := c) m f.name text
  rw [← ht] at hn
  refine ⟨rfl, text, ht, ?_, ?_, ?_⟩
  · have hmember : ⟨f.name, some text⟩ ∈ shape.members := by
      rw [hs, ← ht]
      exact List.mem_map_of_mem (List.mem_filter.2 ⟨(List.mem_filter.1 hshared).1, hside⟩)
    exact List.mem_map_of_mem hmember
  · rw [hn]
    simp
  · rw [hn]
    simp

theorem exists_types_of_mem_sharedFields {name : String} {ds : List Declaration} {f : Field}
    (hf : f ∈ (Schema.ofDeclarations name ds).sharedFields) :
    (f.inEntity = true ∧ ∃ text, f.entityType = some text) ∧ f.inDto = true ∧ ∃ text, f.dtoType = some text := by
  obtain ⟨hmem, hshared⟩ := List.mem_filter.1 hf
  obtain ⟨he, hd⟩ := Bool.and_eq_true_iff.1 hshared
  have hcomplete : f.Complete := complete_of_mem_reconcile hmem
  exact ⟨⟨he, Option.isSome_iff_exists.1 (hcomplete.1.trans he)⟩, hd, Option.isSome_iff_exists.1 (hcomplete.2.trans hd)⟩

theorem agrees_contentsOf (name : String) (ds : List Declaration) :
    Agrees settings c (.ofDeclarations name ds) (contentsOf settings c (.ofDeclarations name ds) entitySpace dtoSpace indent)
      (entityPage settings (.ofDeclarations name ds) entitySpace indent)
      (dtoPage settings c (.ofDeclarations name ds) entitySpace dtoSpace indent) := by
  have hcommon := Schema.commonFields_eq (Schema.nodup_names_ofDeclarations name ds)
  refine ⟨?_, ?_, ?_, ⟨rfl, rfl⟩, ⟨rfl, rfl⟩, rfl⟩
  · rw [contentsOf, assignments_eq _ (·.dtoType) rfl, assignments_eq _ (·.entityType) rfl, List.map_map, List.map_map]
    rfl
  · rw [hcommon]
    exact forall₂_assigns rfl rfl fun f hf => (exists_types_of_mem_sharedFields hf).2
  · rw [hcommon]
    exact forall₂_assigns rfl rfl fun f hf => (exists_types_of_mem_sharedFields hf).1

theorem assignments_congr {type : Field → Option String} {m n : Mapper} (hm : m.assignments = s.assignments c type)
    (hn : n.assignments = t.assignments c type) (hmethod : m.method = n.method)
    (h : s.sharedFields.map (fun f => (f.name, type f)) = t.sharedFields.map fun f => (f.name, type f)) :
    (mapperContents settings m).assignments = (mapperContents settings n).assignments := by
  have hnested : n.nested = m.nested := by
    funext a
    rw [Mapper.nested, Mapper.nested, hmethod]
  have hmap := congrArg
    (List.map fun p => (identifier settings p.1, m.nested ⟨p.1, p.2, c.classifyOptional p.2⟩)) h
  rw [List.map_map, List.map_map] at hmap
  rw [assignments_eq m type hm, assignments_eq n type hn, hnested]
  exact hmap

/-- Whatever is declared, the files of a model are made of contents in which classes and mappers agree; and what a mapper
sets is the same for all models that have the same fields in common, with the same types in the class that it writes. If
the indent size is no count, there are no contents and no files of any model. -/
theorem generate_agrees (h : settings.WellTyped) :
    ∃ c, Classifier.ofValues (settings.get .extraSimpleTypes) (settings.get .extraCollectionPrefixes) = .ok c ∧
      generatorClass.create settings = .ok (generator settings c) ∧
      (settings.IsIndexSized → ∀ name ds, ∃ k entity dto lineEnd, contents settings c (.ofDeclarations name ds) = .ok k ∧
        Source.EntityPage.ofContext k.context = .ok entity ∧ Source.DtoPage.ofContext k.context = .ok dto ∧
        (generator settings c).generate (.ofDeclarations name ds) =
          .ok [⟨entityFile settings name, sourceText lineEnd entity.render⟩,
            ⟨dtoFile settings name, sourceText lineEnd dto.render⟩] ∧
        Agrees settings c (.ofDeclarations name ds) k entity dto ∧
        ∀ other es k', contents settings c (.ofDeclarations other es) = .ok k' →
          ((Schema.ofDeclarations name ds).commonFields.map (fun f => (f.name, f.dtoType)) =
              (Schema.ofDeclarations other es).commonFields.map (fun f => (f.name, f.dtoType)) →
            k.toDto.assignments = k'.toDto.assignments) ∧
          ((Schema.ofDeclarations name ds).commonFields.map (fun f => (f.name, f.entityType)) =
              (Schema.ofDeclarations other es).commonFields.map (fun f => (f.name, f.entityType)) →
            k.toEntity.assignments = k'.toEntity.assignments)) ∧
      (¬ settings.IsIndexSized → ∀ s, contents settings c s = .error .notIndexSized ∧
        (generator settings c).generate s = .error (.mismatch .notIndexSized)) := by
  obtain ⟨c, hc, hbroken⟩ := exists_ofValues h
  refine ⟨c, hc, create_of_ofValues hc, fun hi => ?_,
    fun hi s => ⟨contents_overflow h hbroken hi s, generate_overflow h hbroken hi s⟩⟩
  obtain ⟨entitySpace, he⟩ := h.entityPath_eq
  obtain ⟨dtoSpace, hd⟩ := h.dtoPath_eq
  obtain ⟨n, hi⟩ := h.indent_eq hi
  obtain ⟨lineEnd, hl⟩ := h.lineEnding_eq
  have hcontents := contents_eq hbroken he hd hi
  refine fun name ds => ⟨_, _, _, lineEnd, hcontents _, entityPage_ofContext .., dtoPage_ofContext ..,
    generate_eq hbroken he hd hi hl _, agrees_contentsOf name ds, ?_⟩
  intro other es k' hk'
  cases (hcontents _).symm.trans hk'
  rw [Schema.commonFields_eq (Schema.nodup_names_ofDeclarations name ds),
    Schema.commonFields_eq (Schema.nodup_names_ofDeclarations other es)]
  exact ⟨assignments_congr rfl rfl rfl, assignments_congr rfl rfl rfl⟩

/-- A reference that is split into an object and its name, a keyword, an amount whose type is simple by the settings, and
fields of one side or none: only the types in the data transfer class decide what is converted on the way there. -/
theorem generate_agrees_split :
    let settings := (Settings.default.set .extraSimpleTypes (.list [.text "Money"])).set .toDtoMethod (.text "ToDto")
    let ds : List Declaration := [⟨"Customer", "Customer", true, false⟩, ⟨"class", "ClassDTO", false, true⟩,
      ⟨"Secret", "string", true, false⟩, ⟨"Customer", "string", false, true⟩, ⟨"Total", "Money", true, true⟩,
      ⟨"class", "Class", true, false⟩, ⟨"Note", "Note", false, false⟩, ⟨"Link", "Uri", false, true⟩]
    let es : List Declaration := [⟨"Customer", "string", true, true⟩, ⟨"class", "ClassDTO", true, true⟩,
      ⟨"Total", "Money", true, true⟩]
    settings.WellTyped ∧ ∃ c k k', generatorClass.create settings = .ok (generator settings c) ∧
      contents settings c (.ofDeclarations "Order" ds) = .ok k ∧ contents settings c (.ofDeclarations "Sale" es) = .ok k' ∧
      (Schema.ofDeclarations "Order" ds).commonFields.map (fun f => (f.name, f.dtoType)) =
        (Schema.ofDeclarations "Sale" es).commonFields.map (fun f => (f.name, f.dtoType)) ∧
      k.toDto.assignments = [("Customer", none), ("@class", some (.text "ToDto")), ("Total", none)] ∧
      k.toEntity.assignments =
        [("Customer", some (.text "MapToEntity")), ("@class", some (.text "MapToEntity")), ("Total", none)] ∧
      k'.toDto.assignments = k.toDto.assignments := by
  intro settings ds es
  have hw : settings.WellTyped := (Settings.wellTyped_default.set (by simp [Settings.Fits])).set trivial
  have hcommon : (Schema.ofDeclarations "Order" ds).commonFields.map (fun f => (f.name, f.dtoType)) =
      (Schema.ofDeclarations "Sale" es).commonFields.map (fun f => (f.name, f.dtoType)) := by decide +kernel
  have hi : settings.IsIndexSized := (Settings.isIndexSized_default.set (by decide)).set (by decide)
  obtain ⟨c, hc, hg, hagrees, -⟩ := generate_agrees hw
  obtain ⟨k, entity, dto, lineEnd, hk, -, -, -, -, hother⟩ := hagrees hi "Order" ds
  obtain ⟨k', -, -, -, hk', -⟩ := hagrees hi "Sale" es
  have hsame := (hother "Sale" es k' hk').1 hcommon
  refine ⟨hw, c, k, k', hg, hk, hk', hcommon, ?_, ?_, hsame.symm⟩
  · cases hc
    cases hk
    rfl
  · cases hc
    cases hk
    rfl

end CSharp

end ModelForge
