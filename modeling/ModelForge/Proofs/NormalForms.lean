import ModelForge.Proofs.Compilation
import ModelForge.Proofs.Reconciliation

/-! Models in one-sided declarations. A declaration for both sides says no more than its two halves, and what declarations
reconcile to can be declared anew, with at most one declaration for each side of a field. -/

namespace ModelForge

variable {d first second : Declaration} {ds es part : List Declaration} {f : Field} {fields : List Field}

/-- Not for both sides at once. -/
def Declaration.IsOneSided (d : Declaration) : Prop := d.inEntity = false ∨ d.inDto = false

/-- A declaration for both sides and its halves for one side each, in either order. -/
inductive Declaration.HasHalves : Declaration → Declaration → Declaration → Prop where
  | entityFirst (name type : String) :
      HasHalves ⟨name, type, true, true⟩ ⟨name, type, true, false⟩ ⟨name, type, false, true⟩
  | dtoFirst (name type : String) :
      HasHalves ⟨name, type, true, true⟩ ⟨name, type, false, true⟩ ⟨name, type, true, false⟩

/-- Any of the declarations for both sides are replaced by their halves. -/
inductive Splits : List Declaration → List Declaration → Prop where
  | nil : Splits [] []
  | kept (d : Declaration) {ds es : List Declaration} (rest : Splits ds es) : Splits (d :: ds) (d :: es)
  | split {d first second : Declaration} {ds es : List Declaration} (h : d.HasHalves first second)
      (rest : Splits ds es) : Splits (d :: ds) (first :: second :: es)

/-- A field is declared by its types: once on each side that has one, and once without a flag, with any type, if neither
has. -/
inductive Field.DeclaredBy (f : Field) : List Declaration → Prop where
  | unflagged (type : String) (he : f.entityType = none) (hd : f.dtoType = none) :
      DeclaredBy f [⟨f.name, type, false, false⟩]
  | entityOnly {type : String} (he : f.entityType = some type) (hd : f.dtoType = none) :
      DeclaredBy f [⟨f.name, type, true, false⟩]
  | dtoOnly {type : String} (he : f.entityType = none) (hd : f.dtoType = some type) :
      DeclaredBy f [⟨f.name, type, false, true⟩]
  | entityFirst {own sent : String} (he : f.entityType = some own) (hd : f.dtoType = some sent) :
      DeclaredBy f [⟨f.name, own, true, false⟩, ⟨f.name, sent, false, true⟩]
  | dtoFirst {own sent : String} (he : f.entityType = some own) (hd : f.dtoType = some sent) :
      DeclaredBy f [⟨f.name, sent, false, true⟩, ⟨f.name, own, true, false⟩]

inductive Redeclares : List Field → List Declaration → Prop where
  | nil : Redeclares [] []
  | cons {f : Field} {part : List Declaration} {fields : List Field} {es : List Declaration} (hf : f.DeclaredBy part)
      (rest : Redeclares fields es) : Redeclares (f :: fields) (part ++ es)

/-! Halves. -/

theorem Field.ofDeclaration_eq_merge (d : Declaration) :
    ofDeclaration d = merge ⟨d.name, none, none, false, false⟩ d := by
  simp [ofDeclaration, merge]

namespace Declaration.HasHalves

theorem names (h : d.HasHalves first second) : first.name = d.name ∧ second.name = d.name := by
  cases h <;> exact ⟨rfl, rfl⟩

theorem merge_merge (h : d.HasHalves first second) (f : Field) : (f.merge first).merge second = f.merge d := by
  cases h <;> simp [Field.merge]

/-- The halves meet where their declaration would go: in the field of its name, or in a new one. -/
theorem addDeclaration_addDeclaration (h : d.HasHalves first second) (fields : List Field) :
    addDeclaration (addDeclaration fields first) second = addDeclaration fields d := by
  obtain ⟨hfirst, hsecond⟩ := h.names
  induction fields with
  | nil =>
    have hnew : (Field.ofDeclaration first).merge second = .ofDeclaration d := by
      rw [Field.ofDeclaration_eq_merge, Field.ofDeclaration_eq_merge, hfirst, h.merge_merge]
    have hname : (Field.ofDeclaration first).name = second.name := hfirst.trans hsecond.symm
    simp only [addDeclaration, if_pos hname, hnew]
  | cons f rest ih =>
    simp only [addDeclaration, hfirst]
    by_cases hf : f.name = d.name
    · have hname : (f.merge first).name = second.name := hf.trans hsecond.symm
      rw [if_pos hf, if_pos hf, addDeclaration, if_pos hname, h.merge_merge]
    · have hname : f.name ≠ second.name := fun he => hf (he.trans hsecond)
      rw [if_neg hf, if_neg hf, addDeclaration, if_neg hname, ih]

end Declaration.HasHalves

namespace Splits

theorem foldl_addDeclaration (h : Splits ds es) (fields : List Field) :
    es.foldl addDeclaration fields = ds.foldl addDeclaration fields := by
  induction h generalizing fields with
  | nil => rfl
  | kept d _ ih => exact ih (addDeclaration fields d)
  | split h _ ih =>
    rw [List.foldl_cons, List.foldl_cons, List.foldl_cons, h.addDeclaration_addDeclaration, ih]

theorem reconcile_eq (h : Splits ds es) : reconcile es = reconcile ds := h.foldl_addDeclaration []

end Splits

/-! Fields apart from each other. -/

theorem addDeclaration_append (h : d.name ∉ fields.map (·.name)) (rest : List Field) :
    addDeclaration (fields ++ rest) d = fields ++ addDeclaration rest d := by
  induction fields with
  | nil => rfl
  | cons f fields ih =>
    obtain ⟨hf, hfields⟩ := not_or.1 (mt List.mem_cons.2 h)
    rw [List.cons_append, addDeclaration, if_neg (Ne.symm hf), ih hfields, List.cons_append]

theorem foldl_addDeclaration_append (h : ∀ e ∈ es, e.name ∉ fields.map (·.name)) (rest : List Field) :
    es.foldl addDeclaration (fields ++ rest) = fields ++ es.foldl addDeclaration rest := by
  induction es generalizing rest with
  | nil => rfl
  | cons e es ih =>
    obtain ⟨he, hes⟩ := List.forall_mem_cons.1 h
    rw [List.foldl_cons, List.foldl_cons, addDeclaration_append he, ih hes]

theorem reconcile_append (h : ∀ e ∈ es, e.name ∉ declaredNames ds) :
    reconcile (ds ++ es) = reconcile ds ++ reconcile es := by
  rw [← map_name_reconcile] at h
  have happend := foldl_addDeclaration_append h []
  rwa [List.append_nil, reconcile, ← List.foldl_append] at happend

/-! Fields declared anew. -/

namespace Field

theorem exists_declaredBy (f : Field) : ∃ part, f.DeclaredBy part := by
  cases he : f.entityType with
  | none =>
    cases hd : f.dtoType with
    | none => exact ⟨_, .unflagged "" he hd⟩
    | some sent => exact ⟨_, .dtoOnly he hd⟩
  | some own =>
    cases hd : f.dtoType with
    | none => exact ⟨_, .entityOnly he hd⟩
    | some sent => exact ⟨_, .entityFirst he hd⟩

theorem DeclaredBy.isOneSided (h : f.DeclaredBy part) : ∀ d ∈ part, d.IsOneSided := by
  cases h <;> simp [Declaration.IsOneSided]

theorem Complete.eq_ofTypes (h : f.Complete) :
    f = ⟨f.name, f.entityType, f.dtoType, f.entityType.isSome, f.dtoType.isSome⟩ := by
  rw [h.1, h.2]

theorem DeclaredBy.reconcile_eq (h : f.DeclaredBy part) (hf : f.Complete) : reconcile part = [f] := by
  rw [hf.eq_ofTypes]
  cases h with
  | unflagged type he hd | entityOnly he hd | dtoOnly he hd =>
    rw [he, hd]
    rfl
  | entityFirst he hd | dtoFirst he hd =>
    rw [he, hd]
    simp [reconcile, addDeclaration, ofDeclaration, merge]

end Field

namespace Redeclares

theorem exists_of_fields (fields : List Field) : ∃ es, Redeclares fields es := by
  induction fields with
  | nil => exact ⟨[], .nil⟩
  | cons f fields ih =>
    obtain ⟨part, hf⟩ := f.exists_declaredBy
    obtain ⟨es, hes⟩ := ih
    exact ⟨part ++ es, .cons hf hes⟩

theorem isOneSided (h : Redeclares fields es) : ∀ e ∈ es, e.IsOneSided := by
  induction h with
  | nil => exact fun e he => absurd he List.not_mem_nil
  | cons hf _ ih => exact List.forall_mem_append.2 ⟨hf.isOneSided, ih⟩

theorem reconcile_eq (h : Redeclares fields es) (hn : (fields.map (·.name)).Nodup) (hc : ∀ f ∈ fields, f.Complete) :
    reconcile es = fields := by
  induction h with
  | nil => rfl
  | @cons f part fields es hf _ ih =>
    obtain ⟨hnew, hn⟩ := List.nodup_cons.1 hn
    obtain ⟨hfc, hc⟩ := List.forall_mem_cons.1 hc
    have hpart := hf.reconcile_eq hfc
    have hes := ih hn hc
    -- The names on both sides of the seam are those of the fields, which are distinct.
    have hapart : ∀ e ∈ es, e.name ∉ declaredNames part := by
      intro e he hm
      have hname : e.name ∈ declaredNames es := mem_declaredNames.2 ⟨e, he, rfl⟩
      rw [← map_name_reconcile, hes] at hname
      rw [← map_name_reconcile, hpart] at hm
      exact hnew (List.mem_singleton.1 hm ▸ hname)
    rw [reconcile_append hapart, hpart, hes, List.singleton_append]

theorem reconcile_of_reconcile (h : Redeclares (reconcile ds) es) : reconcile es = reconcile ds := by
  refine h.reconcile_eq ?_ fun _ => complete_of_mem_reconcile
  rw [map_name_reconcile]
  exact nodup_declaredNames ds

end Redeclares

/-! Documents. -/

theorem Generator.artifacts_compile_congr {u v : SourceUnit} {d e : ModelDocument} (hu : ModelDocument.read u.text = .ok d)
    (hv : ModelDocument.read v.text = .ok e) (h : e.schema = d.schema) (g : Generator) :
    (g.compile v).artifacts = (g.compile u).artifacts := by
  rw [Compilation.artifacts, Compilation.artifacts, compile_of_read_ok hu, compile_of_read_ok hv]
  simp only [compileDocument, h]
  cases g.warnings d.schema with
  | error m => rfl
  | ok warnings => cases g.generate d.schema <;> rfl

/-- What declarations reconcile to can be declared by one-sided ones. Whether declarations for both sides are split or the
fields are declared anew, they reconcile to the same fields in the same order, and nothing changes in the files that a
generator makes of a document. -/
theorem reconcile_restated (ds : List Declaration) :
    (∃ es, Redeclares (reconcile ds) es ∧ ∀ e ∈ es, e.IsOneSided) ∧
    ∀ es, Splits ds es ∨ Redeclares (reconcile ds) es →
      reconcile es = reconcile ds ∧
      ∀ (g : Generator) (u v : SourceUnit) (name : String) (skipped skipped' : List Nat),
        ModelDocument.read u.text = .ok ⟨name, ds, skipped⟩ → ModelDocument.read v.text = .ok ⟨name, es, skipped'⟩ →
        (g.compile v).artifacts = (g.compile u).artifacts := by
  obtain ⟨normal, hnormal⟩ := Redeclares.exists_of_fields (reconcile ds)
  refine ⟨⟨normal, hnormal, hnormal.isOneSided⟩, fun es h => ?_⟩
  have hsame : reconcile es = reconcile ds := by
    rcases h with hsplit | hanew
    · exact hsplit.reconcile_eq
    · exact hanew.reconcile_of_reconcile
  refine ⟨hsame, fun g u v name skipped skipped' hu hv => g.artifacts_compile_congr hu hv ?_⟩
  exact congrArg (Schema.mk name) hsame

/-- A field of both sides, another one of neither side, and a second type for the first one. -/
theorem reconcile_restated_retyped :
    let ds : List Declaration := [⟨"A", "int", true, true⟩, ⟨"B", "-", false, false⟩, ⟨"A", "long", false, true⟩]
    let halves : List Declaration :=
      [⟨"A", "int", false, true⟩, ⟨"A", "int", true, false⟩, ⟨"B", "-", false, false⟩, ⟨"A", "long", false, true⟩]
    let anew : List Declaration := [⟨"A", "int", true, false⟩, ⟨"A", "long", false, true⟩, ⟨"B", "?", false, false⟩]
    let text := "<M name='P'><Property name='A' type='int' inEntity='true' inDTO='true'/>" ++
      "<Property name='B' type='-'/><Property name='A' type='long' inDTO='true'/></M>"
    let other := "<M name='P'><Property name='A' type='int' inEntity='true'/>" ++
      "<Property name='A' type='long' inDTO='true'/><Property name='B' type='?'/></M>"
    Splits ds halves ∧ reconcile halves = reconcile ds ∧ Redeclares (reconcile ds) anew ∧ reconcile anew = reconcile ds ∧
      ModelDocument.read (some text) = .ok ⟨"P", ds, []⟩ ∧ ModelDocument.read (some other) = .ok ⟨"P", anew, []⟩ ∧
      ∀ g : Generator, (g.compile ⟨"other", some other⟩).artifacts = (g.compile ⟨"text", some text⟩).artifacts := by
  intro ds halves anew text other
  have hsplit : Splits ds halves := .split (.dtoFirst ..) (.kept _ (.kept _ .nil))
  have hfields : reconcile ds = [⟨"A", some "int", some "long", true, true⟩, ⟨"B", none, none, false, false⟩] := by decide
  have hanew : Redeclares (reconcile ds) anew := by
    rw [hfields]
    exact .cons (.entityFirst rfl rfl) (.cons (.unflagged _ rfl rfl) .nil)
  have htext : ModelDocument.read (some text) = .ok ⟨"P", ds, []⟩ := by decide +kernel
  have hother : ModelDocument.read (some other) = .ok ⟨"P", anew, []⟩ := by decide +kernel
  obtain ⟨-, hall⟩ := reconcile_restated ds
  obtain ⟨hsame, hfiles⟩ := hall anew (.inr hanew)
  exact ⟨hsplit, (hall halves (.inl hsplit)).1, hanew, hsame, htext, hother, fun g => hfiles g _ _ _ _ _ htext hother⟩

end ModelForge
