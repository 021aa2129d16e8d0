import Mathlib.Data.List.Count
import Mathlib.Data.List.Duplicate
import Mathlib.Data.List.Sort
import Mathlib.Data.String.Basic
import ModelForge.Duplicates
import ModelForge.Proofs.Batch
import ModelForge.Proofs.Compilation

/-! The report of names that several artifacts of a batch share. Both file names of a model begin with its name and end in
a way that tells the one from the other, so that two documents share a file name just if they have one root name. -/

namespace ModelForge

open DeclaredType (Classifier)

open scoped List

section Lists

variable {α β : Type} {l : List α} {a b : β}

theorem mem_duplicates {names : List String} {n : String} : n ∈ duplicates names ↔ 1 < names.count n := by
  have hcount (h : 1 < names.count n) : n ∈ names := List.count_pos_iff.1 (by omega)
  simp only [duplicates, List.mem_mergeSort, List.mem_eraseDups, List.mem_filter, decide_eq_true_eq]
  exact ⟨And.right, fun h => ⟨hcount h, h⟩⟩

theorem pairwise_lt_duplicates (names : List String) : (duplicates names).Pairwise (· < ·) := by
  have hle : (duplicates names).Pairwise (· ≤ ·) := List.pairwise_mergeSort' (· ≤ ·) _
  have hne : (duplicates names).Nodup := (List.mergeSort_perm ..).nodup_iff.2 (nodup_eraseDups _)
  exact (hle.and hne).imp fun h => lt_of_le_of_ne h.1 h.2

theorem pair_sublist_filterMap_iff {f : α → Option β} :
    [a, b] <+ l.filterMap f ↔ ∃ x y, [x, y] <+ l ∧ f x = some a ∧ f y = some b := by
  constructor
  · intro h
    obtain ⟨k, hk, he⟩ := List.sublist_filterMap_iff.1 h
    obtain ⟨front, x, rest, rfl, -, hx, hrest⟩ := List.filterMap_eq_cons_iff.1 he.symm
    obtain ⟨gap, y, back, rfl, -, hy, -⟩ := List.filterMap_eq_cons_iff.1 hrest
    have hxy : [x, y] <+ front ++ x :: (gap ++ y :: back) := by
      apply List.sublist_append_of_sublist_right
      apply List.Sublist.cons_cons
      apply List.sublist_append_of_sublist_right
      exact (List.nil_sublist back).cons_cons y
    exact ⟨x, y, hxy.trans hk, hx, hy⟩
  · rintro ⟨x, y, hxy, hx, hy⟩
    have h := hxy.filterMap f
    rwa [List.filterMap_cons_some hx, List.filterMap_cons_some hy] at h

theorem count_map_append [DecidableEq α] [DecidableEq β] {f g : α → β} (hf : f.Injective) {x : α} (hg : ∀ y, g y ≠ f x)
    (l : List α) : (l.map f ++ l.map g).count (f x) = l.count x := by
  have hnone : (l.map g).count (f x) = 0 := by
    apply List.count_eq_zero.2
    intro hm
    obtain ⟨y, -, hy⟩ := List.mem_map.1 hm
    exact hg y hy
  rw [List.count_append, List.count_map_of_injective l f hf, hnone, Nat.add_zero]

theorem one_lt_count_flatMap_iff [DecidableEq α] [DecidableEq β] {f g : α → β} (hf : f.Injective) (hg : g.Injective)
    (hfg : ∀ x y, f x ≠ g y) :
    1 < (l.flatMap fun x => [f x, g x]).count b ↔ ∃ x, (b = f x ∨ b = g x) ∧ [x, x] <+ l := by
  have hperm : (l.flatMap fun x => [f x, g x]) ~ l.map f ++ l.map g := by
    rw [List.map_eq_flatMap, List.map_eq_flatMap]
    exact (List.flatMap_append_perm l (fun x => [f x]) fun x => [g x]).symm
  have htwo (x : α) : 1 < l.count x ↔ [x, x] <+ l :=
    List.duplicate_iff_two_le_count.symm.trans List.duplicate_iff_sublist
  have hfirst (x : α) : 1 < (l.map f ++ l.map g).count (f x) ↔ [x, x] <+ l := by
    rw [count_map_append hf fun y he => hfg x y he.symm, htwo]
  have hsecond (x : α) : 1 < (l.map f ++ l.map g).count (g x) ↔ [x, x] <+ l := by
    rw [List.perm_append_comm.count_eq, count_map_append hg fun y he => hfg y x he, htwo]
  rw [hperm.count_eq]
  constructor
  · intro h
    have hb : b ∈ l.map f ++ l.map g := List.count_pos_iff.1 (by omega)
    rcases List.mem_append.1 hb with hb | hb
    · obtain ⟨x, -, rfl⟩ := List.mem_map.1 hb
      exact ⟨x, .inl rfl, (hfirst x).1 h⟩
    · obtain ⟨x, -, rfl⟩ := List.mem_map.1 hb
      exact ⟨x, .inr rfl, (hsecond x).1 h⟩
  · rintro ⟨x, rfl | rfl, h⟩
    · exact (hfirst x).2 h
    · exact (hsecond x).2 h

end Lists

def SourceUnit.rootName? (u : SourceUnit) : Option String := (ModelDocument.read u.text).toOption.map (·.name)

namespace Generator

def compiledName? (g : Generator) (u : SourceUnit) : Option String :=
  match (g.compile u).outcome with
  | .compiled _ _ _ => u.rootName?
  | _ => none

structure CompilesAs (g : Generator) (u : SourceUnit) (name : String) : Prop where
  compiled : ∃ as ws summary, (g.compile u).outcome = .compiled as ws summary
  named : ∃ t root, u.text = some t ∧ Markup.read t = .ok root ∧ root.attribute? "name" = some name

/-- A report that has, in ascending order, the two file names of just those root names that two of the units share. -/
structure Reports (g : Generator) (extension : String) (us : List SourceUnit) (report : List String) : Prop where
  sorted : report.Pairwise (· < ·)
  mem_iff : ∀ file, file ∈ report ↔ ∃ name, (file = name ++ ".Entity" ++ extension ∨ file = name ++ ".DTO" ++ extension) ∧
    ∃ u v, [u, v] <+ us ∧ g.CompilesAs u name ∧ g.CompilesAs v name
  eq_nil_iff : report = [] ↔ us.Pairwise fun u v => ∀ name, g.CompilesAs u name → ¬ g.CompilesAs v name

theorem exists_read_of_compiled {g : Generator} {u : SourceUnit}
    (h : ∃ as ws summary, (g.compile u).outcome = .compiled as ws summary) : ∃ d, ModelDocument.read u.text = .ok d := by
  obtain ⟨as, ws, summary, ho⟩ := h
  cases hr : ModelDocument.read u.text with
  | error r => cases (compile_of_read_error hr g).symm.trans ho
  | ok d => exact ⟨d, rfl⟩

theorem compilesAs_iff {g : Generator} {u : SourceUnit} {name : String} :
    g.CompilesAs u name ↔ g.compiledName? u = some name := by
  constructor
  · -- What is compiled has been read, so that both roots are the one that was read.
    rintro ⟨hcompiled, t, root, ht, hroot, hname⟩
    obtain ⟨d, hr⟩ := exists_read_of_compiled hcompiled
    obtain ⟨as, ws, summary, ho⟩ := hcompiled
    obtain ⟨t', root', ht', hroot', hname'⟩ := ModelDocument.name_of_read hr
    cases ht.symm.trans ht'
    cases hroot.symm.trans hroot'
    rw [compiledName?, ho, SourceUnit.rootName?, hr]
    exact hname'.symm.trans hname
  · intro h
    unfold compiledName? at h
    split at h
    · next as ws summary ho =>
      obtain ⟨d, hr⟩ := exists_read_of_compiled ⟨as, ws, summary, ho⟩
      rw [SourceUnit.rootName?, hr] at h
      cases h
      exact ⟨⟨as, ws, summary, ho⟩, ModelDocument.name_of_read hr⟩
    · cases h

end Generator

namespace CSharp

variable {settings : Settings} {c : Classifier} {u : SourceUnit} {name : String}

theorem entityFile_injective (settings : Settings) : (entityFile settings).Injective := by
  intro m n h
  exact (String.append_left_inj _).1 ((String.append_left_inj _).1 h)

theorem dtoFile_injective (settings : Settings) : (dtoFile settings).Injective := by
  intro m n h
  exact (String.append_left_inj _).1 ((String.append_left_inj _).1 h)

theorem entityFile_ne_dtoFile (settings : Settings) (m n : String) : entityFile settings m ≠ dtoFile settings n := by
  intro h
  have hfront : m ++ ".Entity" = n ++ ".DTO" := (String.append_left_inj _).1 h
  have hlast := congrArg (fun s => s.toList.getLast?) hfront
  simp [String.toList_append] at hlast

theorem compiledName?_of_isIndexSized (h : settings.WellTyped) (hi : settings.IsIndexSized) (hc : c.broken = none)
    (u : SourceUnit) : (generator settings c).compiledName? u = u.rootName? := by
  cases hr : ModelDocument.read u.text with
  | error r =>
    rw [Generator.compiledName?, Generator.compile_of_read_error hr, SourceUnit.rootName?, hr]
    rfl
  | ok d =>
    obtain ⟨as, ws, summary, ho⟩ := (isCompilation_compileDocument h hi hc d).exists_compiled
    rw [Generator.compiledName?, Generator.compile_of_read_ok hr, ho]

theorem names_compile (h : settings.WellTyped) (hc : c.broken = none) (u : SourceUnit) :
    ((generator settings c).compile u).artifacts.map (·.name) =
      ((generator settings c).compiledName? u).toList.flatMap fun name => [entityFile settings name, dtoFile settings name] := by
  cases hr : ModelDocument.read u.text with
  | error r =>
    rw [Compilation.artifacts, Generator.compiledName?, Generator.compile_of_read_error hr]
    rfl
  | ok d =>
    by_cases hi : settings.IsIndexSized
    · obtain ⟨_, _, _, extension, _, _, -, -, hx, ho, -⟩ := isCompilation_compileDocument h hi hc d
      rw [Compilation.artifacts, compiledName?_of_isIndexSized h hi hc, Generator.compile_of_read_ok hr, ho,
        SourceUnit.rootName?, hr]
      simp [Outcome.artifacts, Except.toOption, entityFile, dtoFile, Settings.shown, hx, Value.display_text]
    · rw [Compilation.artifacts, Generator.compiledName?, Generator.compile_of_read_ok hr,
        compileDocument_overflow h hi hc d]
      rfl

theorem names_compileAll (h : settings.WellTyped) (hc : c.broken = none) (us : List SourceUnit) :
    (artifactsOf ((generator settings c).compileAll us)).map (·.name) =
      (us.filterMap (generator settings c).compiledName?).flatMap fun name =>
        [entityFile settings name, dtoFile settings name] := by
  calc (artifactsOf ((generator settings c).compileAll us)).map (·.name)
    _ = us.flatMap fun u => ((generator settings c).compile u).artifacts.map (·.name) := by
      rw [artifactsOf, Generator.compileAll, List.flatMap_map, List.map_flatMap]
    _ = us.flatMap fun u => ((generator settings c).compiledName? u).toList.flatMap fun name =>
        [entityFile settings name, dtoFile settings name] := by simp only [names_compile h hc]
    _ = (us.filterMap (generator settings c).compiledName?).flatMap fun name =>
        [entityFile settings name, dtoFile settings name] := by
      rw [List.filterMap_eq_flatMap_toList, List.flatMap_assoc]

theorem mem_report_iff (h : settings.WellTyped) (hc : c.broken = none) (us : List SourceUnit) (file : String) :
    file ∈ duplicates ((artifactsOf ((generator settings c).compileAll us)).map (·.name)) ↔
      ∃ name, (file = entityFile settings name ∨ file = dtoFile settings name) ∧
        ∃ u v, [u, v] <+ us ∧ (generator settings c).CompilesAs u name ∧ (generator settings c).CompilesAs v name := by
  have htwice := one_lt_count_flatMap_iff (l := us.filterMap (generator settings c).compiledName?) (b := file) (entityFile_injective settings)
    (dtoFile_injective settings) (entityFile_ne_dtoFile settings)
  simp only [mem_duplicates, names_compileAll h hc, htwice, pair_sublist_filterMap_iff, Generator.compilesAs_iff]

theorem report_eq_nil_iff (h : settings.WellTyped) (hc : c.broken = none) (us : List SourceUnit) :
    duplicates ((artifactsOf ((generator settings c).compileAll us)).map (·.name)) = [] ↔
      us.Pairwise fun u v => ∀ name, (generator settings c).CompilesAs u name →
        ¬ (generator settings c).CompilesAs v name := by
  rw [List.eq_nil_iff_forall_not_mem, List.pairwise_iff_forall_sublist]
  constructor
  · intro hempty u v huv name hu hv
    exact hempty _ ((mem_report_iff h hc us _).2 ⟨name, .inl rfl, u, v, huv, hu, hv⟩)
  · intro hdistinct file hfile
    obtain ⟨name, -, u, v, huv, hu, hv⟩ := (mem_report_iff h hc us file).1 hfile
    exact hdistinct huv name hu hv

/-- Whatever pool compiles a batch, the report on its artifacts is exact. -/
theorem reports_duplicates (h : settings.WellTyped) :
    ∃ c extension, generatorClass.create settings = .ok (generator settings c) ∧
      settings.get .fileExtension = .text extension ∧
      (∀ m n, m ++ ".Entity" ++ extension ≠ n ++ ".DTO" ++ extension) ∧
      ∀ us requested processors,
        (∃ p, Pool.Ends (generator settings c).compile (Pool.size requested processors) us p) ∧
        ∀ p, Pool.Ends (generator settings c).compile (Pool.size requested processors) us p →
          ∃ cs, p.collect us.length = some cs ∧
            (generator settings c).Reports extension us (duplicates ((artifactsOf cs).map (·.name))) := by
  obtain ⟨c, hc, hcreate⟩ := create_eq h
  have hextension : settings.get .fileExtension = .text (settings.shown .fileExtension) := h.get_eq_shown _ ⟨_, rfl⟩
  refine ⟨c, _, hcreate, hextension, entityFile_ne_dtoFile settings, fun us requested processors => ⟨?_, fun p hp => ?_⟩⟩
  · exact Pool.exists_ends _ requested processors us
  · refine ⟨_, Pool.collect_of_ends hp, ?_⟩
    exact ⟨pairwise_lt_duplicates _, mem_report_iff h hc us, report_eq_nil_iff h hc us⟩

/-- Two documents of one name, between them one that is broken and one whose name looks like that of a file. -/
theorem reports_duplicates_twins :
    ∃ settings : Settings, settings.WellTyped ∧ settings.get .fileExtension = .text ".Entity.g.cs" ∧
      ∃ c, generatorClass.create settings = .ok (generator settings c) ∧ ∀ p,
        Pool.Ends (generator settings c).compile (Pool.size (some 3) 8) [⟨"a", some "<Model name='Person'/>"⟩,
          ⟨"b", some "<Model"⟩, ⟨"c", some "<Model name='Person.Entity'/>"⟩, ⟨"d", some "<Model name='Person'/>"⟩] p →
        ∃ cs, p.collect 4 = some cs ∧
          "Person.Entity.Entity.g.cs" ∈ duplicates ((artifactsOf cs).map (·.name)) ∧
          "Person.Entity.DTO.Entity.g.cs" ∉ duplicates ((artifactsOf cs).map (·.name)) := by
  let settings := Settings.default.set .fileExtension (.text ".Entity.g.cs")
  have hw : settings.WellTyped := Settings.wellTyped_default.set trivial
  have hi : settings.IsIndexSized := Settings.isIndexSized_default.set (by decide)
  obtain ⟨c, extension, hcreate, hx, -, h⟩ := reports_duplicates hw
  refine ⟨settings, hw, rfl, c, hcreate, fun p hp => ?_⟩
  obtain ⟨cs, hcollect, hreports⟩ := (h _ (some 3) 8).2 p hp
  have hextension : ".Entity.g.cs" = extension := Value.text.inj hx
  subst hextension
  obtain ⟨c', hc', hcreate'⟩ := create_eq hw
  rw [Except.ok.inj (hcreate.symm.trans hcreate')] at hreports
  have hmem (file : String) := hreports.mem_iff file
  simp only [Generator.compilesAs_iff, compiledName?_of_isIndexSized hw hi hc', ← pair_sublist_filterMap_iff] at hmem
  refine ⟨cs, hcollect, (hmem _).2 ⟨"Person", .inl rfl, by decide +kernel⟩, fun hfile => ?_⟩
  obtain ⟨name, he | he, htwice⟩ := (hmem _).1 hfile
  · exact entityFile_ne_dtoFile settings name "Person.Entity" he.symm
  · have hname : "Person.Entity" = name := dtoFile_injective settings he
    subst hname
    revert htwice
    decide +kernel

end CSharp

end ModelForge
