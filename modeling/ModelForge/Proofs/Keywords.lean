import ModelForge.Proofs.EmittedNames

/-! Bare keywords in the generated files. Every name of a class, a member or a type in a signature is written as an
identifier, except the class of the mappers: it is a bare keyword where the name of the model and the suffix make one. -/

namespace ModelForge

open DeclaredType (Classifier)

def Source.EntityPage.identifiers (p : Source.EntityPage) : List String := p.block.name :: p.block.members.map (·.name)

def Source.MapperBlock.identifiers (m : Source.MapperBlock) : List String :=
  m.target :: m.source :: m.assignments.map (·.name)

/-- The names that the page declares or uses, but for the class of the mappers. -/
def Source.DtoPage.identifiers (p : Source.DtoPage) : List String :=
  p.block.name :: p.block.members.map (·.name) ++ p.mappers.flatMap (·.identifiers)

namespace Identifier

theorem not_isReserved_verbatim (name : String) : ¬ isReserved (verbatim name) = true := by
  by_cases h : isReserved name = true
  · rw [verbatim_of_isReserved h]
    exact not_isReserved_at name
  · rwa [verbatim_of_not_isReserved h]

theorem exists_append_mem_iff {suffix : String} :
    (∃ name, name ++ suffix ∈ reservedWords) ↔ ∃ word ∈ reservedWords, suffix.toList <:+ word.toList := by
  constructor
  · rintro ⟨name, hm⟩
    exact ⟨_, hm, name.toList, String.toList_append.symm⟩
  · rintro ⟨word, hm, front, hw⟩
    refine ⟨String.ofList front, ?_⟩
    have he : String.ofList front ++ suffix = word := by
      rw [← String.toList_inj, String.toList_append, String.toList_ofList, hw]
    rwa [he]

end Identifier

open Identifier (isReserved reservedWords)

namespace CSharp

variable {settings : Settings} {c : Classifier}

theorem identifiers_entityPage (s : Schema) (space indent : String) :
    (entityPage settings s space indent).identifiers =
      (s.name :: s.entityFields.map (·.name)).map (identifier settings) := by
  rw [Source.EntityPage.identifiers, map_name_entityPage]
  rfl

theorem identifiers_dtoPage (s : Schema) (used space indent : String) :
    (dtoPage settings c s used space indent).identifiers =
      (s.dtoName settings :: s.dtoFields.map (·.name) ++ s.dtoName settings :: s.name :: s.sharedFields.map (·.name) ++
        s.name :: s.dtoName settings :: s.sharedFields.map (·.name)).map (identifier settings) := by
  simp [Source.DtoPage.identifiers, Source.MapperBlock.identifiers, dtoPage, block, mapperBlock, assignmentLine,
    Schema.mappers, Schema.assignments, Schema.dtoMembers, Function.comp_def]

/-- Whatever the model, only the class of the mappers can be named by a bare keyword, and with this suffix it never is just
if no keyword ends in the suffix. If the indent size is no count, nothing is named at all. -/
theorem not_isReserved_emitted (hw : settings.WellTyped) (he : (settings.get .escapeKeywords).isSet = true) :
    ∃ c, generatorClass.create settings = .ok (generator settings c) ∧
      (settings.IsIndexSized →
        (∀ name ds, ∃ entity dto lineEnd, pages settings c (.ofDeclarations name ds) = .ok (entity, dto) ∧
          (generator settings c).generate (.ofDeclarations name ds) =
            .ok [⟨entityFile settings name, sourceText lineEnd entity.render⟩,
              ⟨dtoFile settings name, sourceText lineEnd dto.render⟩] ∧
          (∀ n ∈ entity.identifiers ++ dto.identifiers, ¬ isReserved n = true) ∧
          (isReserved dto.mapperClass = true ↔ name ++ settings.shown .mapperSuffix ∈ reservedWords)) ∧
        ((∀ name ds entity dto, pages settings c (.ofDeclarations name ds) = .ok (entity, dto) →
            ¬ isReserved dto.mapperClass = true) ↔
          ∀ word ∈ reservedWords, ¬ (settings.shown .mapperSuffix).toList <:+ word.toList)) ∧
      (¬ settings.IsIndexSized → ∀ s, (generator settings c).generate s = .error (.mismatch .notIndexSized)) := by
  obtain ⟨c, hc, hb⟩ := exists_ofValues hw
  refine ⟨c, create_of_ofValues hc, fun hi => ?_, generate_overflow hw hb⟩
  obtain ⟨_, _, _, lineEnd, hgenerate⟩ := exists_generate_eq hw hi hb
  have hescape : identifier settings = Identifier.verbatim := funext fun n => if_pos he
  have hclass (name : String) (ds : List Declaration) (used space indent : String) :
      isReserved (dtoPage settings c (.ofDeclarations name ds) used space indent).mapperClass = true ↔
        name ++ settings.shown .mapperSuffix ∈ reservedWords := Identifier.isReserved_iff
  refine ⟨fun name ds => ?_, ?_⟩
  · refine ⟨_, _, lineEnd, (hgenerate _).1, (hgenerate _).2, fun n hn => ?_, hclass ..⟩
    rw [identifiers_entityPage, identifiers_dtoPage, ← List.map_append, hescape] at hn
    obtain ⟨m, -, rfl⟩ := List.mem_map.1 hn
    exact Identifier.not_isReserved_verbatim m
  · constructor
    · intro h word hm hs
      obtain ⟨name, hn⟩ := Identifier.exists_append_mem_iff.2 ⟨word, hm, hs⟩
      exact h name [] _ _ (hgenerate _).1 ((hclass ..).2 hn)
    · intro h name ds entity dto hp hr
      obtain ⟨entitySpace, dtoSpace, indent, rfl, rfl⟩ := exists_of_pages hp
      obtain ⟨word, hm, hs⟩ := Identifier.exists_append_mem_iff.1 ⟨name, (hclass ..).1 hr⟩
      exact h word hm hs

/-- No keyword ends in the suffix by default, whatever keywords a model and its fields are named by. -/
theorem not_isReserved_emitted_default :
    Settings.default.WellTyped ∧ (Settings.default.get .escapeKeywords).isSet = true ∧
      ∃ c, generatorClass.create .default = .ok (generator .default c) ∧
        ∀ name ds, ∃ entity dto, pages .default c (.ofDeclarations name ds) = .ok (entity, dto) ∧
          ∀ n ∈ entity.identifiers ++ dto.identifiers ++ [dto.mapperClass], ¬ isReserved n = true := by
  have he : (Settings.default.get .escapeKeywords).isSet = true := rfl
  obtain ⟨c, hc, hemitted, -⟩ := not_isReserved_emitted Settings.wellTyped_default he
  obtain ⟨hpages, hclass⟩ := hemitted Settings.isIndexSized_default
  refine ⟨Settings.wellTyped_default, he, c, hc, fun name ds => ?_⟩
  obtain ⟨entity, dto, -, hp, -, hn, -⟩ := hpages name ds
  have hends : ∀ word ∈ reservedWords, ¬ (Settings.default.shown .mapperSuffix).toList <:+ word.toList := by decide +kernel
  refine ⟨entity, dto, hp, fun n hm => ?_⟩
  rcases List.mem_append.1 hm with hm | hm
  · exact hn n hm
  · rw [List.mem_singleton.1 hm]
    exact hclass.2 hends name ds entity dto hp

/-- The model is named by no keyword, and neither are its classes, but the class of its mappers is. -/
theorem mapperClass_reserved :
    ∃ settings : Settings, settings.WellTyped ∧ (settings.get .escapeKeywords).isSet = true ∧
      ∃ c entity dto, generatorClass.create settings = .ok (generator settings c) ∧
        pages settings c (.ofDeclarations "inter" []) = .ok (entity, dto) ∧ dto.mapperClass = "interface" ∧
        isReserved dto.mapperClass = true := by
  let settings := Settings.default.set .mapperSuffix (.text "face")
  have hw : settings.WellTyped := Settings.wellTyped_default.set (by simp [Settings.Fits])
  obtain ⟨c, hc, hb⟩ := exists_ofValues hw
  obtain ⟨_, _, _, _, hgenerate⟩ := exists_generate_eq hw (Settings.isIndexSized_default.set (by decide)) hb
  have hr : isReserved "interface" = true := by decide +kernel
  exact ⟨settings, hw, rfl, c, _, _, create_of_ofValues hc, (hgenerate _).1, rfl, hr⟩

end CSharp

end ModelForge
