import ModelForge.Compilation
import ModelForge.Proofs.Generation
import ModelForge.Proofs.Reconciliation

/-! Compiling with well-typed settings. A text that is no model is skipped, and every other one gives two files whose content
the counts describe, unless the indent size is no count: then every model fails. -/

namespace ModelForge

open DeclaredType (Classifier)

theorem exists_mapM_ok {α β ε : Type} {f : α → Except ε β} {l : List α} (h : ∀ a ∈ l, ∃ b, f a = .ok b) :
    ∃ bs, l.mapM f = .ok bs := by
  induction l with
  | nil => exact ⟨[], rfl⟩
  | cons a l ih =>
    obtain ⟨b, hb⟩ := h a (List.mem_cons_self ..)
    obtain ⟨bs, hbs⟩ := ih fun x hx => h x (List.mem_cons_of_mem _ hx)
    refine ⟨b :: bs, ?_⟩
    rw [List.mapM_cons, hb, hbs]
    rfl

theorem Schema.exists_check_ok {s : Schema} (h : ∀ f ∈ s.fields, f.Complete) : ∃ ws, s.check = .ok ws := by
  unfold Schema.check
  split
  · exact ⟨_, rfl⟩
  · obtain ⟨wss, hw⟩ := exists_mapM_ok fun f hf => Field.check_complete (h f hf) s.name
    rw [hw]
    exact ⟨_, rfl⟩

namespace ModelDocument

theorem complete_of_mem_schema {d : ModelDocument} {f : Field} (h : f ∈ d.schema.fields) : f.Complete :=
  complete_of_mem_reconcile h

/-- There is no text, or it is no well-formed document, or its root has no name or a blank one. -/
def IsMissing (text : Option String) : Prop :=
  text = none ∨ ∃ t, text = some t ∧ ((∃ message, Markup.read t = .error message) ∨
    ∃ root, Markup.read t = .ok root ∧ ∀ name, root.attribute? "name" = some name → Text.blank name = true)

theorem filled?_eq_none_iff {e : Markup.Element} {base : String} :
    filled? e base = none ↔ ∀ v, e.attribute? base = some v → Text.blank v = true := by
  simp [filled?, Option.filter_eq_none_iff]

theorem filled?_eq_some_iff {e : Markup.Element} {base v : String} :
    filled? e base = some v ↔ e.attribute? base = some v ∧ Text.blank v = false := by
  simp [filled?, Option.filter_eq_some_iff]

theorem exists_ofRoot_error_iff {root : Markup.Element} :
    (∃ r, ofRoot root = .error r) ↔ ∀ v, root.attribute? "name" = some v → Text.blank v = true := by
  rw [← filled?_eq_none_iff]
  unfold ofRoot
  split <;> simp_all

theorem name_of_ofRoot {root : Markup.Element} {d : ModelDocument} (h : ofRoot root = .ok d) :
    root.attribute? "name" = some d.name := by
  unfold ofRoot at h
  split at h
  · cases h
  · next name hn =>
    cases h
    exact (filled?_eq_some_iff.1 hn).1

theorem exists_read_error_iff {text : Option String} : (∃ r, read text = .error r) ↔ IsMissing text := by
  cases text with
  | none => simp [read, IsMissing]
  | some t =>
    cases hm : Markup.read t with
    | error message => simp [read, IsMissing, hm]
    | ok root => simp [read, IsMissing, hm, exists_ofRoot_error_iff]

theorem name_of_read {text : Option String} {d : ModelDocument} (h : read text = .ok d) :
    ∃ t root, text = some t ∧ Markup.read t = .ok root ∧ root.attribute? "name" = some d.name := by
  cases text with
  | none => cases h
  | some t =>
    simp only [read] at h
    split at h
    · cases h
    · next root hr => exact ⟨t, root, rfl, hr, name_of_ofRoot h⟩

end ModelDocument

namespace CSharp

theorem exists_check_ok {s : Schema} (h : ∀ f ∈ s.fields, f.Complete) (settings : Settings) :
    ∃ ws, check settings s = .ok ws := by
  obtain ⟨ws, hw⟩ := Schema.exists_check_ok h
  unfold check
  rw [hw]
  exact ⟨_, rfl⟩

/-- A document's two files, each the text of a page. The document's own warnings come first, and the counts are those of
the declared names and of what the pages show. -/
def IsCompilation (settings : Settings) (c : Classifier) (d : ModelDocument) (o : Outcome) : Prop :=
  ∃ entity dto lineEnd extension warnings summary,
    pages settings c d.schema = .ok (entity, dto) ∧ settings.lineEnding = .ok lineEnd ∧
    settings.get .fileExtension = .text extension ∧
    o = .compiled [⟨d.name ++ ".Entity" ++ extension, sourceText lineEnd entity.render⟩,
      ⟨d.name ++ ".DTO" ++ extension, sourceText lineEnd dto.render⟩] (d.warnings ++ warnings) summary ∧
    summary.fields = (declaredNames d.declarations).length ∧ summary.entityMembers = entity.block.members.length ∧
    summary.dtoMembers = dto.block.members.length ∧ dto.mappers.length = 2 ∧
    ∀ m ∈ dto.mappers, m.assignments.length = summary.mapped

theorem isCompilation_compileDocument {settings : Settings} {c : Classifier} (h : settings.WellTyped)
    (hi : settings.IsIndexSized) (hc : c.broken = none) (d : ModelDocument) :
    IsCompilation settings c d ((generator settings c).compileDocument d) := by
  obtain ⟨entitySpace, he⟩ := h.entityPath_eq
  obtain ⟨dtoSpace, hd⟩ := h.dtoPath_eq
  obtain ⟨k, hi⟩ := h.indent_eq hi
  obtain ⟨lineEnd, hl⟩ := h.lineEnding_eq
  obtain ⟨extension, hx⟩ := h.text .fileExtension ⟨_, rfl⟩
  obtain ⟨ws, hw⟩ := exists_check_ok (fun _ => d.complete_of_mem_schema) settings
  have hg := artifacts_eq hc he hd hi hl d.schema
  simp only [entityFile, dtoFile, Settings.shown, hx, Value.display_text] at hg
  refine ⟨_, _, lineEnd, extension, ws, d.schema.summary "csharp", pages_eq hc he hd hi d.schema, hl, hx, ?_,
    length_reconcile _, (length_entityPage_members ..).symm, (length_dtoPage_members ..).symm, rfl,
    fun m hm => length_dtoPage_assignments hm⟩
  simp only [Generator.compileDocument, generator, hw, generate, hg]
  rfl

theorem compileDocument_overflow {settings : Settings} {c : Classifier} (h : settings.WellTyped)
    (hi : ¬ settings.IsIndexSized) (hc : c.broken = none) (d : ModelDocument) :
    (generator settings c).compileDocument d = .failed (.generation (.mismatch .notIndexSized)) := by
  obtain ⟨ws, hw⟩ := exists_check_ok (fun _ => d.complete_of_mem_schema) settings
  have hw' : (generator settings c).warnings d.schema = .ok ws := hw
  simp only [Generator.compileDocument, hw', generate_overflow h hc hi]

theorem IsCompilation.exists_compiled {settings : Settings} {c : Classifier} {d : ModelDocument} {o : Outcome}
    (h : IsCompilation settings c d o) : ∃ as ws summary, o = .compiled as ws summary := by
  obtain ⟨_, _, _, _, _, _, -, -, -, ho, -⟩ := h
  exact ⟨_, _, _, ho⟩

end CSharp

namespace Generator

theorem compile_of_read_error {u : SourceUnit} {r : SkipReason} (h : ModelDocument.read u.text = .error r)
    (g : Generator) : (g.compile u).outcome = .skipped r := by
  simp only [compile, compileText, h]

theorem compile_of_read_ok {u : SourceUnit} {d : ModelDocument} (h : ModelDocument.read u.text = .ok d)
    (g : Generator) : (g.compile u).outcome = g.compileDocument d := by
  simp only [compile, compileText, h]

end Generator

/-- Whatever the text, it is skipped exactly if it is no model. Every model results in its two files if the indent size is a
count, and in one and the same failure if it is none. -/
theorem compile_total {settings : Settings} (h : settings.WellTyped) :
    ∃ c, CSharp.generatorClass.create settings = .ok (CSharp.generator settings c) ∧ ∀ u : SourceUnit,
      ((∃ r, ((CSharp.generator settings c).compile u).outcome = .skipped r) ↔ ModelDocument.IsMissing u.text) ∧
      (ModelDocument.IsMissing u.text → ((CSharp.generator settings c).compile u).artifacts = []) ∧
      (settings.IsIndexSized →
        (∀ e, ((CSharp.generator settings c).compile u).outcome ≠ .failed e) ∧
        (¬ ModelDocument.IsMissing u.text → ∃ t root d, u.text = some t ∧ Markup.read t = .ok root ∧
          ModelDocument.read u.text = .ok d ∧ root.attribute? "name" = some d.name ∧
          CSharp.IsCompilation settings c d ((CSharp.generator settings c).compile u).outcome)) ∧
      (¬ settings.IsIndexSized → ¬ ModelDocument.IsMissing u.text →
        ((CSharp.generator settings c).compile u).outcome = .failed (.generation (.mismatch .notIndexSized))) := by
  obtain ⟨c, hc, hg⟩ := CSharp.create_eq h
  -- A unit is skipped exactly where its document cannot be read, so that the two cases are those of the reader.
  refine ⟨c, hg, fun u => ?_⟩
  rw [Compilation.artifacts, ← ModelDocument.exists_read_error_iff]
  cases hr : ModelDocument.read u.text with
  | error r =>
    have hread : ∃ r', Except.error (α := ModelDocument) r = .error r' := ⟨r, rfl⟩
    rw [Generator.compile_of_read_error hr]
    refine ⟨⟨fun _ => hread, fun _ => ⟨r, rfl⟩⟩, fun _ => rfl, fun _ => ⟨?_, fun hn => absurd hread hn⟩,
      fun _ hn => absurd hread hn⟩
    rintro e ⟨⟩
  | ok d =>
    obtain ⟨t, root, ht, hroot, hname⟩ := ModelDocument.name_of_read hr
    have hn : ¬ ∃ r, Except.ok (ε := SkipReason) d = .error r := by rintro ⟨r, ⟨⟩⟩
    rw [Generator.compile_of_read_ok hr]
    by_cases hi : settings.IsIndexSized
    · have ho := CSharp.isCompilation_compileDocument h hi hc d
      obtain ⟨as, ws, summary, he⟩ := ho.exists_compiled
      refine ⟨⟨?_, fun hd => absurd hd hn⟩, fun hd => absurd hd hn,
        fun _ => ⟨?_, fun _ => ⟨t, root, d, ht, hroot, rfl, hname, ho⟩⟩, fun hi' => absurd hi hi'⟩
      · rw [he]
        rintro ⟨r, ⟨⟩⟩
      · rw [he]
        rintro e ⟨⟩
    · rw [CSharp.compileDocument_overflow h hi hc d]
      refine ⟨⟨?_, fun hd => absurd hd hn⟩, fun hd => absurd hd hn, fun hi' => absurd hi' hi, fun _ _ => rfl⟩
      rintro ⟨r, ⟨⟩⟩

/-- Settings with further simple types, no comments, keywords as they are, and an indent size below zero. -/
theorem compile_total_custom :
    let settings := (((Settings.default.set .extraSimpleTypes (.list [.text "Money"])).set .addComments (.bool false)).set
      .escapeKeywords (.bool false)).set .indentSize (.int (-2))
    settings.WellTyped ∧ settings.IsIndexSized ∧
    ∃ c, CSharp.generatorClass.create settings = .ok (CSharp.generator settings c) ∧ ∀ u : SourceUnit,
      (∀ e, ((CSharp.generator settings c).compile u).outcome ≠ .failed e) ∧
      ((∃ r, ((CSharp.generator settings c).compile u).outcome = .skipped r) ↔ ModelDocument.IsMissing u.text) ∧
      (ModelDocument.IsMissing u.text → ((CSharp.generator settings c).compile u).artifacts = []) ∧
      (¬ ModelDocument.IsMissing u.text → ∃ t root d, u.text = some t ∧ Markup.read t = .ok root ∧
        ModelDocument.read u.text = .ok d ∧ root.attribute? "name" = some d.name ∧
        CSharp.IsCompilation settings c d ((CSharp.generator settings c).compile u).outcome) := by
  intro settings
  have hw : settings.WellTyped := by
    intro n
    cases n <;> simp [settings, Settings.set, Settings.default, Setting.default, Settings.Fits]
  have hi : settings.IsIndexSized := by
    rintro n ⟨⟩
    decide
  obtain ⟨c, hg, h⟩ := compile_total hw
  refine ⟨hw, hi, c, hg, fun u => ?_⟩
  obtain ⟨hskipped, hnone, hcounted, -⟩ := h u
  exact ⟨(hcounted hi).1, hskipped, hnone, (hcounted hi).2⟩

/-- A well-typed indent size that is one too large fails a model without properties. -/
theorem compile_too_wide :
    let settings := Settings.default.set .indentSize (.int 9223372036854775808)
    settings.WellTyped ∧ ∃ c, CSharp.generatorClass.create settings = .ok (CSharp.generator settings c) ∧
      ∃ e, ((CSharp.generator settings c).compile ⟨"person", some "<Model name='Person'/>"⟩).outcome = .failed e := by
  intro settings
  have hw : settings.WellTyped := Settings.wellTyped_default.set trivial
  have hi : ¬ settings.IsIndexSized := fun hi => absurd (hi 9223372036854775808 rfl) (by decide)
  obtain ⟨c, hc, hg⟩ := CSharp.create_eq hw
  have hr : ModelDocument.read (some "<Model name='Person'/>") = .ok ⟨"Person", [], []⟩ := by rfl
  have ho : ((CSharp.generator settings c).compile ⟨"person", some "<Model name='Person'/>"⟩).outcome = _ :=
    Generator.compile_of_read_ok hr _
  rw [CSharp.compileDocument_overflow hw hi hc] at ho
  exact ⟨hw, c, hg, _, ho⟩

end ModelForge
