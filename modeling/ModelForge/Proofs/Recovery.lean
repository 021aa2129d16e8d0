import ModelForge.Proofs.Generation
import ModelForge.Proofs.Reconciliation
import ModelForge.Proofs.Source.Pages

/-! Nothing is lost in the generated files: read back line by line they give the classes, mappers and namespaces from which
they were made. -/

namespace ModelForge

open DeclaredType (Classifier)
open Identifier (IsName isFull isDotted isLetterOrDigit)

/-- Settings whose names are emitted in one piece. -/
structure Settings.IsPlain (s : Settings) : Prop where
  wellTyped : s.WellTyped
  lineEnding : s.get .lineEnding = .text "\n"
  namespaces : ∀ n ∈ [Setting.rootNamespace, .entityNamespace, .dtoNamespace], isDotted (s.shown n).toList = true
  suffixes : ∀ n ∈ [Setting.dtoSuffix, .mapperSuffix], (s.shown n).toList.all isLetterOrDigit = true
  methods : ∀ n ∈ [Setting.toDtoMethod, .toEntityMethod], s.shown n ≠ "" ∧ '\n' ∉ (s.shown n).toList

/-- A model whose names are emitted in one piece and whose types stand in one line. -/
structure Schema.IsPlain (s : Schema) : Prop where
  name : IsName s.name
  complete : ∀ f ∈ s.fields, f.Complete
  names : ∀ f ∈ s.fields, IsName f.name
  entityTypes : ∀ f ∈ s.fields, ∀ t, f.entityType = some t → '\n' ∉ t.toList
  dtoTypes : ∀ f ∈ s.fields, ∀ t, f.dtoType = some t → '\n' ∉ t.toList

namespace Settings.IsPlain

variable {settings : Settings} (h : settings.IsPlain)

include h

theorem entityPath_eq :
    settings.entityPath = .ok (settings.shown .rootNamespace ++ "." ++ settings.shown .entityNamespace) := by
  rw [Settings.entityPath, h.wellTyped.get_eq_shown .rootNamespace ⟨_, rfl⟩,
    h.wellTyped.get_eq_shown .entityNamespace ⟨_, rfl⟩]
  exact joinedNamespace_of_isDotted (h.namespaces _ (by simp)) (h.namespaces _ (by simp))

theorem dtoPath_eq : settings.dtoPath = .ok (settings.shown .rootNamespace ++ "." ++ settings.shown .dtoNamespace) := by
  rw [Settings.dtoPath, h.wellTyped.get_eq_shown .rootNamespace ⟨_, rfl⟩,
    h.wellTyped.get_eq_shown .dtoNamespace ⟨_, rfl⟩]
  exact joinedNamespace_of_isDotted (h.namespaces _ (by simp)) (h.namespaces _ (by simp))

theorem lineFeed_not_mem_space {n : Setting} (hn : n ∈ [Setting.rootNamespace, .entityNamespace, .dtoNamespace]) :
    '\n' ∉ (settings.shown .rootNamespace ++ "." ++ settings.shown n).toList := by
  simp only [String.toList_append, List.mem_append, not_or]
  exact ⟨⟨Identifier.lineFeed_not_mem_of_isDotted (h.namespaces _ (by simp)), by decide⟩,
    Identifier.lineFeed_not_mem_of_isDotted (h.namespaces n hn)⟩

end Settings.IsPlain

theorem Schema.isPlain_ofDeclarations {name : String} {ds : List Declaration} (hn : isFull name.toList = true)
    (hd : ∀ d ∈ ds, isFull d.name.toList = true ∧ '\n' ∉ d.type.toList) : (ofDeclarations name ds).IsPlain := by
  have hf : ∀ f ∈ reconcile ds, ∃ n ∈ declaredNames ds, Field.ofName ds n = f := by
    intro f hf
    rw [reconcile_eq_map] at hf
    exact List.mem_map.1 hf
  refine ⟨.of_isFull hn, fun f => complete_of_mem_reconcile, fun f h => ?_, fun f h t ht => ?_, fun f h t ht => ?_⟩
  · obtain ⟨n, hm, rfl⟩ := hf f h
    obtain ⟨d, hds, rfl⟩ := mem_declaredNames.1 hm
    exact .of_isFull (hd d hds).1
  · obtain ⟨n, -, rfl⟩ := hf f h
    obtain ⟨d, hds, -, -, rfl⟩ := exists_of_lastType_eq_some ht
    exact (hd d hds).2
  · obtain ⟨n, -, rfl⟩ := hf f h
    obtain ⟨d, hds, -, -, rfl⟩ := exists_of_lastType_eq_some ht
    exact (hd d hds).2

namespace CSharp

/-! What the files of a model are to say. -/

def comments (settings : Settings) : List String :=
  if (settings.get .addComments).isSet then
    ["// <auto-generated />", "// Generated by xml-modelgen. Changes to this file will be lost."]
  else []

def emitted (settings : Settings) (ms : List Member) : List Member := ms.map fun m => ⟨identifier settings m.name, m.type⟩

def entityText (settings : Settings) (s : Schema) : Source.EntityText where
  comments := comments settings
  shape := {
    className := identifier settings s.name
    space := settings.shown .rootNamespace ++ "." ++ settings.shown .entityNamespace
    members := emitted settings s.entityMembers }

def mapperText (settings : Settings) (m : Mapper) (method : String) : Source.MapperBlock where
  target := identifier settings m.target
  method := method
  source := identifier settings m.source
  parameter := m.parameter
  assignments := m.assignments.map fun a =>
    ⟨identifier settings a.name, match a.kind with | .simple => none | .composite => some method⟩

def dtoText (settings : Settings) (c : Classifier) (s : Schema) : Source.DtoText where
  comments := comments settings
  used := settings.shown .rootNamespace ++ "." ++ settings.shown .entityNamespace
  shape := {
    className := identifier settings (s.dtoName settings)
    space := settings.shown .rootNamespace ++ "." ++ settings.shown .dtoNamespace
    members := emitted settings s.dtoMembers }
  mapperClass := s.name ++ settings.shown .mapperSuffix
  toDto := mapperText settings (s.mappers settings c).toDto (settings.shown .toDtoMethod)
  toEntity := mapperText settings (s.mappers settings c).toEntity (settings.shown .toEntityMethod)

section Plain

open Source

variable {settings : Settings} {c : Classifier} {s : Schema}

theorem shows_header (settings : Settings) : Shows (headerText (topOf settings)) (comments settings) := by
  unfold topOf comments
  split
  · have he : headerText (some header) = ("// <auto-generated />" ++ "\n") ++
        (("// Generated by xml-modelgen. Changes to this file will be lost." ++ "\n") ++ "\n") := by decide +kernel
    rw [he]
    exact (shows_unindented ⟨by decide, ⟨'/', rfl, by decide⟩, ⟨'>', rfl, by decide⟩⟩).append
      ((shows_unindented ⟨by decide, ⟨'/', rfl, by decide⟩, ⟨'.', rfl, by decide⟩⟩).append shows_lineFeed)
  · exact fun _ => rfl

theorem isComment_of_mem_comments {line : String} (h : line ∈ comments settings) : isComment line.toList = true := by
  unfold comments at h
  split at h
  · simp only [List.mem_cons, List.not_mem_nil, or_false] at h
    rcases h with rfl | rfl <;> rfl
  · cases h

/-! The pages are those of the texts. -/

theorem classOf_emitted (name space : String) (ms : List Member) :
    classOf ⟨identifier settings name, space, emitted settings ms⟩ = block settings ⟨name, space, ms⟩ := by
  simp [classOf, block, emitted]

theorem mapperBlock_eq {m : Mapper} {method : String} (hm : m.method = .text method) (hne : method ≠ "") :
    mapperBlock settings m = mapperText settings m method := by
  -- A method without a name would be left out of the line like a missing one.
  have ha : ∀ a ∈ m.assignments, assignmentLine settings m a =
      ⟨identifier settings a.name, match a.kind with | .simple => none | .composite => some method⟩ := by
    intro a _
    cases hk : a.kind <;> simp [assignmentLine, Mapper.nested, hk, hm, Value.isSet, hne, Value.display_text]
  rw [mapperBlock, mapperText, hm, Value.display_text, List.map_congr_left ha]

/-! Members and mappers of a plain model. -/

theorem plain_of_mem_emitted {fields : List Field} {type : Field → Option String}
    (hf : ∀ f ∈ fields, IsName f.name ∧ ∃ t, type f = some t ∧ '\n' ∉ t.toList) {m : Member}
    (hm : m ∈ emitted settings (fields.map fun f => ⟨f.name, type f⟩)) :
    IsName m.name ∧ ∃ t, m.type = some t ∧ '\n' ∉ t.toList := by
  obtain ⟨_, hm', rfl⟩ := List.mem_map.1 hm
  obtain ⟨f, hfm, rfl⟩ := List.mem_map.1 hm'
  obtain ⟨hn, ht⟩ := hf f hfm
  exact ⟨isName_identifier hn settings, ht⟩

theorem plain_of_mem_entityMembers (h : s.IsPlain) {m : Member} (hm : m ∈ emitted settings s.entityMembers) :
    IsName m.name ∧ ∃ t, m.type = some t ∧ '\n' ∉ t.toList := by
  refine plain_of_mem_emitted (fun f hf => ?_) hm
  obtain ⟨hf, he⟩ := List.mem_filter.1 hf
  obtain ⟨t, ht⟩ := Option.isSome_iff_exists.1 ((h.complete f hf).1.trans he)
  exact ⟨h.names f hf, t, ht, h.entityTypes f hf t ht⟩

theorem plain_of_mem_dtoMembers (h : s.IsPlain) {m : Member} (hm : m ∈ emitted settings s.dtoMembers) :
    IsName m.name ∧ ∃ t, m.type = some t ∧ '\n' ∉ t.toList := by
  refine plain_of_mem_emitted (fun f hf => ?_) hm
  obtain ⟨hf, hd⟩ := List.mem_filter.1 hf
  obtain ⟨t, ht⟩ := Option.isSome_iff_exists.1 ((h.complete f hf).2.trans hd)
  exact ⟨h.names f hf, t, ht, h.dtoTypes f hf t ht⟩

theorem isName_of_mem_assignments (h : s.IsPlain) {type : Field → Option String} {a : Assignment}
    (ha : a ∈ s.assignments c type) : IsName a.name := by
  obtain ⟨f, hf, rfl⟩ := List.mem_map.1 ha
  exact h.names f (List.mem_filter.1 hf).1

theorem isPlain_mapperText {m : Mapper} {method : String} (ht : IsName m.target) (hs : IsName m.source)
    (hp : IsName m.parameter) (hn : ∀ a ∈ m.assignments, IsName a.name) (hm : '\n' ∉ method.toList) :
    (mapperText settings m method).IsPlain := by
  refine ⟨isName_identifier ht settings, isName_identifier hs settings, hm, hp, fun a ha => ?_, fun a ha other ho => ?_⟩
  · obtain ⟨b, hb, rfl⟩ := List.mem_map.1 ha
    exact isName_identifier (hn b hb) settings
  · obtain ⟨b, -, rfl⟩ := List.mem_map.1 ha
    simp only at ho
    split at ho
    · cases ho
    · cases ho
      exact hm

theorem isShown_of_plain {m : Member} (h : IsName m.name ∧ ∃ t, m.type = some t ∧ '\n' ∉ t.toList) : IsShown m := by
  obtain ⟨hn, t, ht, -⟩ := h
  exact ⟨⟨t, ht⟩, hn.blank_not_mem⟩

theorem lineFeed_not_mem_of_plain {m : Member} (h : IsName m.name ∧ ∃ t, m.type = some t ∧ '\n' ∉ t.toList) :
    '\n' ∉ (Field.typeText m.type).toList ∧ '\n' ∉ m.name.toList := by
  obtain ⟨hn, t, ht, hl⟩ := h
  rw [ht]
  exact ⟨hl, hn.lineFeed_not_mem⟩

/-! What is read back. -/

theorem isName_dtoName (h : settings.IsPlain) (hs : s.IsPlain) : IsName (s.dtoName settings) :=
  hs.name.append (h.suffixes _ (by simp))

theorem isPlain_toDto (h : settings.IsPlain) (hs : s.IsPlain) : (dtoText settings c s).toDto.IsPlain := by
  have hp : IsName "entity" := .of_isFull (by decide)
  exact isPlain_mapperText (isName_dtoName h hs) hs.name hp (fun _ => isName_of_mem_assignments hs)
    (h.methods _ (by simp)).2

theorem isPlain_toEntity (h : settings.IsPlain) (hs : s.IsPlain) : (dtoText settings c s).toEntity.IsPlain := by
  have hp : IsName "dto" := .of_isFull (by decide)
  exact isPlain_mapperText hs.name (isName_dtoName h hs) hp (fun _ => isName_of_mem_assignments hs)
    (h.methods _ (by simp)).2

theorem shows_entity (h : settings.IsPlain) (hs : s.IsPlain) (k : Nat) :
    Shows (entityPage settings s (settings.shown .rootNamespace ++ "." ++ settings.shown .entityNamespace)
      (String.ofList (List.replicate k ' '))).render (entityText settings s).lines := by
  rw [entityPage, ← classOf_emitted]
  exact shows_entityPage (e := entityText settings s) (shows_header settings) (h.lineFeed_not_mem_space (by simp))
    (isName_identifier hs.name settings) (fun m hm => lineFeed_not_mem_of_plain (plain_of_mem_entityMembers hs hm)) k

theorem shows_dto (h : settings.IsPlain) (hs : s.IsPlain) (k : Nat) :
    Shows (dtoPage settings c s (settings.shown .rootNamespace ++ "." ++ settings.shown .entityNamespace)
      (settings.shown .rootNamespace ++ "." ++ settings.shown .dtoNamespace)
      (String.ofList (List.replicate k ' '))).render (dtoText settings c s).lines := by
  have hd : mapperBlock settings (s.mappers settings c).toDto = (dtoText settings c s).toDto :=
    mapperBlock_eq (h.wellTyped.get_eq_shown .toDtoMethod ⟨_, rfl⟩) (h.methods _ (by simp)).1
  have he : mapperBlock settings (s.mappers settings c).toEntity = (dtoText settings c s).toEntity :=
    mapperBlock_eq (h.wellTyped.get_eq_shown .toEntityMethod ⟨_, rfl⟩) (h.methods _ (by simp)).1
  rw [dtoPage, ← classOf_emitted, hd, he]
  exact shows_dtoPage (e := dtoText settings c s) (shows_header settings) (h.lineFeed_not_mem_space (by simp))
    (h.lineFeed_not_mem_space (by simp)) (isName_identifier (isName_dtoName h hs) settings)
    (fun m hm => lineFeed_not_mem_of_plain (plain_of_mem_dtoMembers hs hm)) (hs.name.append (h.suffixes _ (by simp)))
    (isPlain_toDto h hs) (isPlain_toEntity h hs) k

theorem ofLines?_entityText (hs : s.IsPlain) :
    EntityText.ofLines? ((entityText settings s).lines.map String.toList) = some (entityText settings s) :=
  EntityText.ofLines?_lines (fun _ => isComment_of_mem_comments) fun _ hm =>
    isShown_of_plain (plain_of_mem_entityMembers hs hm)

theorem ofLines?_dtoText (h : settings.IsPlain) (hs : s.IsPlain) :
    DtoText.ofLines? ((dtoText settings c s).lines.map String.toList) = some (dtoText settings c s) :=
  DtoText.ofLines?_lines (fun _ => isComment_of_mem_comments)
    (fun _ hm => isShown_of_plain (plain_of_mem_dtoMembers hs hm)) (isPlain_toDto h hs).isShown
    (isPlain_toEntity h hs).isShown

end Plain

end CSharp

/-- The two files of a model give back, line by line, all that was emitted into them, and hold no other line that is not
blank. If the indent size is no count, there are no files. -/
theorem read_generated {settings : Settings} (h : settings.IsPlain) {name : String} {ds : List Declaration}
    (hn : isFull name.toList = true) (hd : ∀ d ∈ ds, isFull d.name.toList = true ∧ '\n' ∉ d.type.toList) :
    ∃ c, CSharp.generatorClass.create settings = .ok (CSharp.generator settings c) ∧
      (settings.IsIndexSized → ∃ entity dto, (CSharp.generator settings c).generate (.ofDeclarations name ds) =
          .ok [⟨CSharp.entityFile settings name, entity⟩, ⟨CSharp.dtoFile settings name, dto⟩] ∧
        Source.EntityText.read entity = some (CSharp.entityText settings (.ofDeclarations name ds)) ∧
        Source.contentLines entity.toList =
          (CSharp.entityText settings (.ofDeclarations name ds)).lines.map String.toList ∧
        Source.DtoText.read dto = some (CSharp.dtoText settings c (.ofDeclarations name ds)) ∧
        Source.contentLines dto.toList =
          (CSharp.dtoText settings c (.ofDeclarations name ds)).lines.map String.toList) ∧
      (¬ settings.IsIndexSized →
        (CSharp.generator settings c).generate (.ofDeclarations name ds) = .error (.mismatch .notIndexSized)) := by
  -- The pages do not depend on how they are tidied, and their lines are those of the texts to be read.
  have hs := Schema.isPlain_ofDeclarations hn hd
  obtain ⟨c, hc, hg⟩ := CSharp.create_eq h.wellTyped
  refine ⟨c, hg, fun hi => ?_, fun hi => CSharp.generate_overflow h.wellTyped hc hi _⟩
  obtain ⟨k, hi⟩ := h.wellTyped.indent_eq hi
  have hl : settings.lineEnding = .ok "\n" := by rw [Settings.lineEnding, h.lineEnding]
  have he := (CSharp.shows_entity h hs k).contentLines_sourceText
  have ht := (CSharp.shows_dto (c := c) h hs k).contentLines_sourceText
  refine ⟨_, _, CSharp.generate_eq hc h.entityPath_eq h.dtoPath_eq hi hl _, ?_, he, ?_, ht⟩
  · rw [Source.EntityText.read, he]
    exact CSharp.ofLines?_entityText hs
  · rw [Source.DtoText.read, ht]
    exact CSharp.ofLines?_dtoText h hs

/-- Two files without an indent, of a model whose name and first field are keywords. -/
theorem read_generated_unindented :
    let settings := ((Settings.default.set .rootNamespace (.text "App.Core")).set .indentSize (.int 0)).set
      .toDtoMethod (.text "Copy")
    let ds : List Declaration := [⟨"class", "Dictionary<string, int> {}", true, false⟩, ⟨"@home", "Address", true, true⟩,
      ⟨"class", "string", false, true⟩]
    settings.IsPlain ∧ isFull "event".toList = true ∧ (∀ d ∈ ds, isFull d.name.toList = true ∧ '\n' ∉ d.type.toList) ∧
    settings.IsIndexSized ∧
    ∃ c, CSharp.generatorClass.create settings = .ok (CSharp.generator settings c) ∧
      ∃ entity dto, (CSharp.generator settings c).generate (.ofDeclarations "event" ds) =
          .ok [⟨CSharp.entityFile settings "event", entity⟩, ⟨CSharp.dtoFile settings "event", dto⟩] ∧
        Source.EntityText.read entity = some (CSharp.entityText settings (.ofDeclarations "event" ds)) ∧
        Source.contentLines entity.toList =
          (CSharp.entityText settings (.ofDeclarations "event" ds)).lines.map String.toList ∧
        Source.DtoText.read dto = some (CSharp.dtoText settings c (.ofDeclarations "event" ds)) ∧
        Source.contentLines dto.toList =
          (CSharp.dtoText settings c (.ofDeclarations "event" ds)).lines.map String.toList := by
  intro settings ds
  have hw : settings.WellTyped := by
    intro n
    cases n <;> simp [settings, Settings.set, Settings.default, Setting.default, Settings.Fits]
  have hp : settings.IsPlain := ⟨hw, rfl, by decide +kernel, by decide +kernel, by decide +kernel⟩
  have hn : isFull "event".toList = true := by decide
  have hd : ∀ d ∈ ds, isFull d.name.toList = true ∧ '\n' ∉ d.type.toList := by decide
  have hi : settings.IsIndexSized := by
    rintro n ⟨⟩
    decide
  obtain ⟨c, hg, hread, -⟩ := read_generated hp hn hd
  exact ⟨hp, hn, hd, hi, c, hg, hread hi⟩

/-- There are no files to read where the indent size is one too large. -/
theorem generate_too_wide :
    let settings := Settings.default.set .indentSize (.int 9223372036854775808)
    settings.IsPlain ∧ isFull "Person".toList = true ∧
    ∃ c, CSharp.generatorClass.create settings = .ok (CSharp.generator settings c) ∧
      ∀ files, (CSharp.generator settings c).generate (.ofDeclarations "Person" []) ≠ .ok files := by
  intro settings
  have hw : settings.WellTyped := Settings.wellTyped_default.set trivial
  have hp : settings.IsPlain := ⟨hw, rfl, by decide +kernel, by decide +kernel, by decide +kernel⟩
  have hi : ¬ settings.IsIndexSized := fun hi => absurd (hi 9223372036854775808 rfl) (by decide)
  obtain ⟨c, hc, hg⟩ := CSharp.create_eq hw
  refine ⟨hp, by decide, c, hg, fun files hf => ?_⟩
  cases (CSharp.generate_overflow hw hc hi _).symm.trans hf

end ModelForge
