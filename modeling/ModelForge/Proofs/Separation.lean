import ModelForge.Proofs.Generation
import ModelForge.Proofs.Reconciliation

/-! Each file of a model depends on the fields of its own side only: declarations that do not count for a side can be left
out without a trace in that side's file. -/

namespace ModelForge

open DeclaredType (Classifier)

variable {n m : String} {ds : List Declaration} {d : Declaration}

def withoutName (n : String) (ds : List Declaration) : List Declaration := ds.filter (·.name ≠ n)

theorem withoutName_concat_self (h : d.name = n) : withoutName n (ds ++ [d]) = withoutName n ds := by
  simp [withoutName, h]

theorem withoutName_concat_of_ne (h : d.name ≠ n) : withoutName n (ds ++ [d]) = withoutName n ds ++ [d] := by
  simp [withoutName, h]

theorem mem_declaredNames_withoutName : m ∈ declaredNames (withoutName n ds) ↔ m ∈ declaredNames ds ∧ m ≠ n := by
  simp only [mem_declaredNames, withoutName, List.mem_filter, decide_eq_true_eq]
  constructor
  · rintro ⟨d, ⟨hd, hne⟩, rfl⟩
    exact ⟨⟨d, hd, rfl⟩, hne⟩
  · rintro ⟨⟨d, hd, rfl⟩, hne⟩
    exact ⟨d, ⟨hd, hne⟩, rfl⟩

theorem declaredNames_withoutName (n : String) (ds : List Declaration) :
    declaredNames (withoutName n ds) = (declaredNames ds).filter (· ≠ n) := by
  induction ds using List.reverseRecOn with
  | nil => rfl
  | append_singleton ds d ih =>
    rw [declaredNames_concat, List.filter_append]
    by_cases h : d.name = n
    · -- What is added is left out again, whether it is new or not.
      have hs : (if d.name ∈ declaredNames ds then [] else [d.name]).filter (· ≠ n) = [] := by
        split <;> simp [h]
      rw [withoutName_concat_self h, ih, hs, List.append_nil]
    · have hm : d.name ∈ declaredNames (withoutName n ds) ↔ d.name ∈ declaredNames ds := by
        rw [mem_declaredNames_withoutName]
        exact and_iff_left h
      have hs : (if d.name ∈ declaredNames ds then [] else [d.name]).filter (· ≠ n) =
          if d.name ∈ declaredNames ds then [] else [d.name] := by
        split <;> simp [h]
      rw [withoutName_concat_of_ne h, declaredNames_concat, ih, hs]
      simp only [← ih, hm]

theorem Field.ofName_withoutName (h : m ≠ n) (ds : List Declaration) : ofName (withoutName n ds) m = ofName ds m := by
  induction ds using List.reverseRecOn with
  | nil => rfl
  | append_singleton ds d ih =>
    by_cases hd : d.name = n
    · have hne : d.name ≠ m := fun e => h (e.symm.trans hd)
      rw [withoutName_concat_self hd, ih, ofName_concat_of_ne hne]
    · rw [withoutName_concat_of_ne hd]
      by_cases hm : d.name = m
      · subst hm
        rw [ofName_concat_self, ofName_concat_self, ih]
      · rw [ofName_concat_of_ne hm, ofName_concat_of_ne hm, ih]

theorem reconcile_withoutName (n : String) (ds : List Declaration) :
    reconcile (withoutName n ds) = (reconcile ds).filter (·.name ≠ n) := by
  rw [reconcile_eq_map, reconcile_eq_map, declaredNames_withoutName, List.filter_map]
  refine List.map_congr_left fun m hm => ?_
  have hne : m ≠ n := by simpa using (List.mem_filter.1 hm).2
  exact Field.ofName_withoutName hne ds

theorem eq_false_of_isFlagged {flagged : Declaration → Bool} (h : ∀ d ∈ ds, d.name = n → flagged d = false) :
    isFlagged flagged n ds = false := by
  rw [← Bool.not_eq_true, isFlagged_eq_true_iff]
  rintro ⟨d, hd, hn, hf⟩
  exact Bool.false_ne_true ((h d hd hn).symm.trans hf)

theorem filter_reconcile_withoutName {side : Field → Bool} (h : side (.ofName ds n) = false) :
    (reconcile (withoutName n ds)).filter side = (reconcile ds).filter side := by
  rw [reconcile_withoutName, List.filter_filter]
  refine List.filter_congr fun f hf => ?_
  rw [reconcile_eq_map] at hf
  obtain ⟨m, -, rfl⟩ := List.mem_map.1 hf
  by_cases hm : m = n
  · rw [hm, h]
    rfl
  · have hne : (Field.ofName ds m).name ≠ n := hm
    simp [hne]

namespace CSharp

variable {settings : Settings} {c : Classifier} {s t : Schema}

theorem entityPage_congr (hn : s.name = t.name) (hf : s.entityFields = t.entityFields) (space indent : String) :
    entityPage settings s space indent = entityPage settings t space indent := by
  simp only [entityPage, Schema.entityMembers, hn, hf]

theorem sharedFields_eq (s : Schema) : s.sharedFields = s.dtoFields.filter (·.inEntity) := by
  rw [Schema.sharedFields, Schema.dtoFields, List.filter_filter]
  rfl

theorem dtoPage_congr (hn : s.name = t.name) (hf : s.dtoFields = t.dtoFields) (used space indent : String) :
    dtoPage settings c s used space indent = dtoPage settings c t used space indent := by
  have hs : s.sharedFields = t.sharedFields := by rw [sharedFields_eq, sharedFields_eq, hf]
  simp only [dtoPage, Schema.dtoMembers, Schema.dtoName, Schema.mappers, Schema.assignments, hn, hf, hs]

end CSharp

/-- Declarations of a name that no declaration sets on a side leave no trace in the file of that side, wherever and however
often they stand. If the indent size is no count, there are no files of any model. -/
theorem generate_withoutName {settings : Settings} (h : settings.WellTyped) :
    ∃ c, CSharp.generatorClass.create settings = .ok (CSharp.generator settings c) ∧
      (settings.IsIndexSized → ∀ (name n : String) (ds : List Declaration), ∃ entity dto entity' dto',
        (CSharp.generator settings c).generate (.ofDeclarations name ds) = .ok [entity, dto] ∧
        (CSharp.generator settings c).generate (.ofDeclarations name (withoutName n ds)) = .ok [entity', dto'] ∧
        entity.name = CSharp.entityFile settings name ∧ dto.name = CSharp.dtoFile settings name ∧
        ((∀ d ∈ ds, d.name = n → d.inDto = false) → dto' = dto) ∧
        ((∀ d ∈ ds, d.name = n → d.inEntity = false) → entity' = entity)) ∧
      (¬ settings.IsIndexSized → ∀ s, (CSharp.generator settings c).generate s = .error (.mismatch .notIndexSized)) := by
  obtain ⟨c, hc, hg⟩ := CSharp.create_eq h
  refine ⟨c, hg, fun hi name n ds => ?_, CSharp.generate_overflow h hc⟩
  obtain ⟨_, _, _, _, ha⟩ := CSharp.exists_generate_eq h hi hc
  have hs : (Schema.ofDeclarations name (withoutName n ds)).name = (Schema.ofDeclarations name ds).name := rfl
  refine ⟨_, _, _, _, (ha _).2, (ha _).2, rfl, rfl, fun hn => ?_, fun hn => ?_⟩
  · have hf : (Schema.ofDeclarations name (withoutName n ds)).dtoFields = (Schema.ofDeclarations name ds).dtoFields :=
      filter_reconcile_withoutName (eq_false_of_isFlagged hn)
    rw [CSharp.dtoPage_congr hs hf, hs]
  · have hf : (Schema.ofDeclarations name (withoutName n ds)).entityFields =
        (Schema.ofDeclarations name ds).entityFields :=
      filter_reconcile_withoutName (eq_false_of_isFlagged hn)
    rw [CSharp.entityPage_congr hs hf, hs]

/-- A secret that is declared three times among other fields, and a token that only the other side has. -/
theorem generate_withoutName_secret :
    let settings := Settings.default.set .extraSimpleTypes (.list [.text "Money"])
    let ds : List Declaration := [⟨"PasswordHash", "string", true, false⟩, ⟨"Token", "Guid", false, true⟩,
      ⟨"PasswordHash", "byte[]", true, false⟩, ⟨"Home", "Address", true, false⟩, ⟨"PasswordHash", "Hash", false, false⟩,
      ⟨"Home", "AddressDTO", false, true⟩]
    settings.WellTyped ∧ (∀ d ∈ ds, d.name = "PasswordHash" → d.inDto = false) ∧
    (∀ d ∈ ds, d.name = "Token" → d.inEntity = false) ∧
    ∃ c entity dto entity' dto', CSharp.generatorClass.create settings = .ok (CSharp.generator settings c) ∧
      (CSharp.generator settings c).generate (.ofDeclarations "Person" ds) = .ok [entity, dto] ∧
      (CSharp.generator settings c).generate (.ofDeclarations "Person" (withoutName "PasswordHash" ds)) =
        .ok [entity', dto] ∧
      (CSharp.generator settings c).generate (.ofDeclarations "Person" (withoutName "Token" ds)) = .ok [entity, dto'] := by
  intro settings ds
  have hw : settings.WellTyped := by
    intro n
    cases n <;> simp [settings, Settings.set, Settings.default, Setting.default, Settings.Fits]
  have hi : settings.IsIndexSized := Settings.isIndexSized_default.set (by decide)
  have hp : ∀ d ∈ ds, d.name = "PasswordHash" → d.inDto = false := by decide
  have ht : ∀ d ∈ ds, d.name = "Token" → d.inEntity = false := by decide
  obtain ⟨c, hg, h, -⟩ := generate_withoutName hw
  obtain ⟨entity, dto, entity', _, ha, hb, -, -, hd, -⟩ := h hi "Person" "PasswordHash" ds
  obtain ⟨first, _, first', dto', ha', hb', -, -, -, he⟩ := h hi "Person" "Token" ds
  have hf : first = entity := by
    rw [ha] at ha'
    exact (List.cons.inj (Except.ok.inj ha')).1.symm
  rw [hd hp] at hb
  rw [he ht, hf] at hb'
  exact ⟨hw, hp, ht, c, entity, dto, entity', dto', hg, ha, hb, hb'⟩

end ModelForge
