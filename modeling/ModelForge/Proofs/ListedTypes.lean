import ModelForge.Proofs.Agreement
import ModelForge.Proofs.Classification

/-! What becomes of the types that the settings list as simple. A field's type is normalized before it is looked up, and
the listed ones are not: a bare name is found, and a listed type that is more than a bare name can be overlooked. -/

namespace ModelForge

namespace DeclaredType

/-- Nothing shows that the type is simple: its bare name is not listed, and it is neither blank nor a sequence or an array. -/
structure IsOverlooked (types starts : List String) (x : String) : Prop where
  filled : ¬ Blanks x.toList
  unlisted : normalize x ∉ builtins ++ types
  sequence : ∀ p ∈ sequencePrefixes ++ starts, ¬ p.toList <+: x.toList
  array : ¬ arraySuffix.toList <:+ x.toList

variable {types starts : List String} {x : String}

theorem classify_eq_composite_iff_isOverlooked :
    (Classifier.extended types starts).classify x = .composite ↔ IsOverlooked types starts x := by
  rw [Classifier.classify_eq_composite_iff, Classifier.classify_eq_simple_iff, Classifier.isDecided_iff]
  constructor
  · intro h
    obtain ⟨hd, ha⟩ := not_or.1 h
    obtain ⟨hf, hd⟩ := not_or.1 hd
    obtain ⟨hu, hs⟩ := not_or.1 hd
    exact ⟨hf, hu, fun p hp hpre => hs ⟨p, hp, hpre⟩, ha⟩
  · rintro h ((hf | hu | ⟨p, hp, hpre⟩) | ha)
    · exact h.filled hf
    · exact h.unlisted hu
    · exact h.sequence p hp hpre
    · exact h.array ha

theorem normalize_of_isBare (h : IsBare x.toList) : normalize x = x := by
  have hs : Spells x.toList ([] ++ (x.toList ++ [])) := .plain (List.forall_mem_nil _) (List.forall_mem_nil _)
  rw [List.nil_append, List.append_nil] at hs
  exact normalize_eq_iff.2 (normalizeChars_of_spells h hs)

theorem not_isOverlooked_of_isBare (hx : x ∈ types) (h : IsBare x.toList) : ¬ IsOverlooked types starts x := by
  intro ho
  have hn := ho.unlisted
  rw [normalize_of_isBare h] at hn
  exact hn (List.mem_append_right _ hx)

end DeclaredType

open DeclaredType (Classifier IsBare IsOverlooked)

namespace CSharp

variable {settings : Settings} {c : Classifier} {s : Schema}

/-- If the type of a field is the given one, its value is copied, unless the type is taken for composite and there is a
method to convert it with. -/
def Copies (method : Value) (composite : Prop) (x : String) (type : Option String) (line : Source.AssignmentLine) : Prop :=
  type = some x → (line.nested = none ↔ (composite → method.isSet = false))

theorem forall₂_copies {m : Mapper} {type : Field → Option String} {composite : Prop} {x : String}
    (hm : m.assignments = s.assignments c type) (hc : c.classify x = .composite ↔ composite) :
    List.Forall₂ (fun f line => Copies m.method composite x (type f) line) s.sharedFields
      (mapperBlock settings m).assignments := by
  have hlines : (mapperBlock settings m).assignments = s.sharedFields.map fun f =>
      assignmentLine settings m ⟨f.name, type f, c.classifyOptional (type f)⟩ := by
    rw [mapperBlock, hm, Schema.assignments, List.map_map]
    rfl
  rw [hlines, List.forall₂_map_right_iff]
  apply List.forall₂_same.2
  intro f _ ht
  have hn := nested_eq (c := c) m f.name x
  rw [← ht] at hn
  rw [assignmentLine, hn, ← hc]
  by_cases hx : c.classify x = .composite
  · rw [if_pos hx, Option.bind_some]
    cases m.method.isSet <;> simp [hx]
  · simp [hx]

/-- A type that is listed as simple is taken for composite just if it is overlooked, and a bare name never is. So both
mappers copy the values of all fields of the types that are listed by their bare names. If the indent size is no count,
there are no mappers of any model. -/
theorem copies_of_listed (h : settings.WellTyped) :
    ∃ types starts c, settings.get .extraSimpleTypes = .list (types.map .text) ∧
      settings.get .extraCollectionPrefixes = .list (starts.map .text) ∧
      generatorClass.create settings = .ok (generator settings c) ∧
      (∀ x ∈ types, (c.classify x = .composite ↔ IsOverlooked types starts x) ∧
        (IsBare x.toList → ¬ IsOverlooked types starts x) ∧
        (settings.IsIndexSized → ∀ s, ∃ entity dto toDto toEntity lineEnd, pages settings c s = .ok (entity, dto) ∧
          (generator settings c).generate s = .ok [⟨entityFile settings s.name, sourceText lineEnd entity.render⟩,
            ⟨dtoFile settings s.name, sourceText lineEnd dto.render⟩] ∧
          dto.mappers = [toDto, toEntity] ∧
          List.Forall₂ (fun f line => Copies (settings.get .toDtoMethod) (IsOverlooked types starts x) x f.dtoType line)
            s.sharedFields toDto.assignments ∧
          List.Forall₂ (fun f line => Copies (settings.get .toEntityMethod) (IsOverlooked types starts x) x f.entityType line)
            s.sharedFields toEntity.assignments)) ∧
      (¬ settings.IsIndexSized → ∀ s, (generator settings c).generate s = .error (.mismatch .notIndexSized)) := by
  obtain ⟨types, ht⟩ := h.texts .extraSimpleTypes rfl
  obtain ⟨starts, hs⟩ := h.texts .extraCollectionPrefixes rfl
  have hc : Classifier.ofValues (settings.get .extraSimpleTypes) (settings.get .extraCollectionPrefixes) =
      .ok (Classifier.extended types starts) := by
    rw [ht, hs]
    exact Classifier.ofValues_texts types starts
  have hsound : (Classifier.extended types starts).broken = none := rfl
  refine ⟨types, starts, .extended types starts, ht, hs, create_of_ofValues hc, fun x hx => ?_,
    generate_overflow h hsound⟩
  have hover : (Classifier.extended types starts).classify x = .composite ↔ IsOverlooked types starts x :=
    DeclaredType.classify_eq_composite_iff_isOverlooked
  refine ⟨hover, DeclaredType.not_isOverlooked_of_isBare hx, fun hi s => ?_⟩
  obtain ⟨_, _, _, lineEnd, hgenerate⟩ := exists_generate_eq h hi hsound
  let pair := s.mappers settings (.extended types starts)
  have hto : List.Forall₂ _ s.sharedFields (mapperBlock settings pair.toDto).assignments := forall₂_copies rfl hover
  have hfrom : List.Forall₂ _ s.sharedFields (mapperBlock settings pair.toEntity).assignments := forall₂_copies rfl hover
  exact ⟨_, _, _, _, lineEnd, (hgenerate s).1, (hgenerate s).2, rfl, hto, hfrom⟩

/-- The name before listed arguments is listed too, so that no type of the list is overlooked. -/
theorem copies_of_listed_arguments :
    ∃ settings : Settings, settings.WellTyped ∧
      settings.get .extraSimpleTypes = .list (["Money", "Map<int>", "Map"].map .text) ∧
      ∃ c, generatorClass.create settings = .ok (generator settings c) ∧
        ∀ x ∈ ["Money", "Map<int>", "Map"], c.classify x = .simple ∧
          ∃ entity dto, pages settings c ⟨"Order", [⟨"Total", some x, some x, true, true⟩]⟩ = .ok (entity, dto) ∧
            ∀ block ∈ dto.mappers, ∀ line ∈ block.assignments, line.nested = none := by
  let settings := Settings.default.set .extraSimpleTypes (.list (["Money", "Map<int>", "Map"].map .text))
  have hw : settings.WellTyped := Settings.wellTyped_default.set (by simp [Settings.Fits])
  have hi : settings.IsIndexSized := Settings.isIndexSized_default.set (by decide)
  obtain ⟨types, starts, c, ht, hs, hc, h, -⟩ := copies_of_listed hw
  have htypes : ["Money", "Map<int>", "Map"] = types :=
    List.map_injective_iff.2 (fun a b hab => Value.text.inj hab) (Value.list.inj ht)
  refine ⟨settings, hw, rfl, c, hc, ?_⟩
  rw [htypes]
  intro x hx
  obtain ⟨hover, -, hpages⟩ := h x hx
  have hfound : ¬ IsOverlooked types starts x := by
    have hnames : ∀ x ∈ ["Money", "Map<int>", "Map"],
        DeclaredType.normalize x ∈ DeclaredType.builtins ++ ["Money", "Map<int>", "Map"] := by decide +kernel
    rw [htypes] at hnames
    exact fun ho => ho.unlisted (hnames x hx)
  have hsimple : c.classify x = .simple := by
    have hk : ¬ c.classify x = .composite := fun hk => hfound (hover.1 hk)
    rwa [Classifier.classify_eq_composite_iff, not_not] at hk
  obtain ⟨entity, dto, toDto, toEntity, -, hp, -, hm, hto, hfrom⟩ := hpages hi ⟨"Order", [⟨"Total", some x, some x, true, true⟩]⟩
  refine ⟨hsimple, entity, dto, hp, ?_⟩
  obtain ⟨line, rest, hline, hrest, hto⟩ := List.forall₂_cons_left_iff.1 hto
  obtain ⟨back, others, hback, hothers, hfrom⟩ := List.forall₂_cons_left_iff.1 hfrom
  rw [List.forall₂_nil_left_iff.1 hrest] at hto
  rw [List.forall₂_nil_left_iff.1 hothers] at hfrom
  have hnone (method : Value) : IsOverlooked types starts x → method.isSet = false := fun ho => absurd ho hfound
  simp only [hm, List.forall_mem_cons, hto, hfrom]
  exact ⟨⟨(hline rfl).2 (hnone _), List.forall_mem_nil _⟩, ⟨(hback rfl).2 (hnone _), List.forall_mem_nil _⟩,
    List.forall_mem_nil _⟩

/-- A type that is listed with its arguments is taken for composite, and the values of a field of that type are converted
both ways. -/
theorem listed_overlooked :
    ∃ settings : Settings, settings.WellTyped ∧
      settings.get .extraSimpleTypes = .list (["Dictionary<string, int>"].map .text) ∧
      ∃ c, generatorClass.create settings = .ok (generator settings c) ∧
        c.classify "Dictionary<string, int>" = .composite ∧
        ∃ entity dto, pages settings c (.ofDeclarations "Order" [⟨"Counts", "Dictionary<string, int>", true, true⟩]) =
            .ok (entity, dto) ∧
          dto.mappers.map (·.assignments) = [[⟨"Counts", some "MapToDTO"⟩], [⟨"Counts", some "MapToEntity"⟩]] := by
  let settings := Settings.default.set .extraSimpleTypes (.list (["Dictionary<string, int>"].map .text))
  have hw : settings.WellTyped := Settings.wellTyped_default.set (by simp [Settings.Fits])
  have hc : Classifier.ofValues (settings.get .extraSimpleTypes) (settings.get .extraCollectionPrefixes) =
      .ok (Classifier.extended ["Dictionary<string, int>"] []) := rfl
  have hk : (Classifier.extended ["Dictionary<string, int>"] []).classify "Dictionary<string, int>" = .composite := by
    decide +kernel
  refine ⟨settings, hw, rfl, _, create_of_ofValues hc, hk, ?_⟩
  exact ⟨_, _, rfl, by decide +kernel⟩

end CSharp

end ModelForge
