import ModelForge.Proofs.Generation
import ModelForge.Proofs.Source.Indents

/-! Settings of style: comments, indent and line ends. They show in the header, in the spaces at the beginnings of lines and
in what stands between the lines; everything else of a file is the same with all of them. -/

namespace ModelForge

def Setting.styles : List Setting := [addComments, indentSize, lineEnding]

namespace Source

def StartsSolid (text : String) : Prop := ∃ c s, text.toList = c :: s ∧ Text.isBlank c = false

theorem StartsSolid.exists_line {text : String} (h : StartsSolid text) :
    ∃ line rest, Text.lines text.toList = line :: rest ∧ isContent line = true := by
  obtain ⟨c, s, ht, hc⟩ := h
  have hn : c ≠ '\n' := by
    rintro rfl
    exact absurd hc (by decide)
  obtain ⟨p, ps, hp⟩ := List.exists_cons_of_ne_nil (Text.cutAt_ne_nil '\n' s)
  refine ⟨c :: p, ps, ?_, by simp [isContent, hc]⟩
  rw [ht, Text.lines, Text.cutAt, hp]
  simp only [if_neg hn]

theorem StartsSolid.tidyLines_ne_nil {text : String} (h : StartsSolid text) : tidyLines text.toList ≠ [] := by
  obtain ⟨line, rest, hl, hcontent⟩ := h.exists_line
  intro hn
  have hf := filter_tidyLines text.toList
  rw [hn, hl, List.filter_cons_of_pos hcontent] at hf
  cases hf

theorem StartsSolid.append {text : String} (h : StartsSolid text) (rest : String) : StartsSolid (text ++ rest) := by
  obtain ⟨c, s, ht, hc⟩ := h
  exact ⟨c, s ++ rest.toList, by rw [String.toList_append, ht, List.cons_append], hc⟩

theorem startsSolid_entityPage (space : String) (block : ClassBlock) (indent : String) :
    StartsSolid (EntityPage.render ⟨none, space, block, indent⟩) := by
  have hn : StartsSolid "namespace " := ⟨'n', "amespace ".toList, rfl, by decide⟩
  rw [EntityPage.render, headerText, String.empty_append]
  exact ((hn.append _).append _).append _

theorem startsSolid_dtoPage (used space : String) (block : ClassBlock) (mapperClass : String) (mappers : List MapperBlock)
    (indent : String) : StartsSolid (DtoPage.render ⟨none, used, space, block, mapperClass, mappers, indent⟩) := by
  have hu : StartsSolid "using " := ⟨'u', "sing ".toList, rfl, by decide⟩
  rw [DtoPage.render, headerText, String.empty_append]
  simp only [String.append_assoc]
  exact hu.append _

theorem isSteady_entityPage (space : String) (block : ClassBlock) :
    IsSteady fun indent => EntityPage.render ⟨none, space, block, indent⟩ := by
  have he : (fun indent => EntityPage.render ⟨none, space, block, indent⟩) = fun indent =>
      (("namespace " ++ space ++ ";\n") ++ "\n") ++ block.render indent := by
    funext indent
    rw [EntityPage.render, headerText, String.empty_append, show ";\n\n" = ";\n" ++ "\n" from rfl]
    simp only [String.append_assoc]
  rw [he]
  exact (isSteady_line _).append (isSteady_class block)

theorem isSteady_dtoPage (used space : String) (block : ClassBlock) (mapperClass : String) (toDto toEntity : MapperBlock) :
    IsSteady fun indent => DtoPage.render ⟨none, used, space, block, mapperClass, [toDto, toEntity], indent⟩ := by
  have he : (fun indent => DtoPage.render ⟨none, used, space, block, mapperClass, [toDto, toEntity], indent⟩) =
      fun indent => (("using " ++ used ++ ";\n\nnamespace " ++ space ++ ";\n") ++ "\n") ++
        (block.render indent ++ (("\npublic static class " ++ mapperClass ++ "\n\x7b" ++ "\n") ++
          (toDto.render indent ++ (("" ++ "\n") ++ (toEntity.render indent ++ ("\x7d" ++ "\n")))))) := by
    funext indent
    rw [DtoPage.render, headerText, String.empty_append, String.empty_append, show ";\n\n" = ";\n" ++ "\n" from rfl,
      show "\n\x7b\n" = "\n\x7b" ++ "\n" from rfl, show "\x7d\n" = "\x7d" ++ "\n" from rfl]
    simp only [List.map_cons, List.map_nil, String.intercalate_cons_cons, String.intercalate_singleton, String.append_assoc]
  rw [he]
  exact (isSteady_line _).append ((isSteady_class block).append ((isSteady_line _).append
    ((isSteady_mapper toDto).append ((isSteady_line _).append ((isSteady_mapper toEntity).append (isSteady_line _))))))

end Source

namespace CSharp

open DeclaredType (Classifier)
open Source (tidyLines unindented headerText IsSteady StartsSolid)

def sourceLines (settings : Settings) (source : String) : List (List Char) :=
  Text.cutBy (settings.shown .lineEnding).toList source.toList

def headerLines (settings : Settings) : List (List Char) :=
  if (settings.get .addComments).isSet then (Text.lines header.toList).map (Source.commentLine ['/', '/']) ++ [[]] else []

/-- The lines after the header, without the spaces before them. -/
def bodyLines (settings : Settings) (source : String) : List (List Char) :=
  ((sourceLines settings source).drop (headerLines settings).length).map unindented

/-- Two files that are the same but for the style of the settings they were made with. -/
structure SameBody (a b : Settings) (file other : Artifact) : Prop where
  name : file.name = other.name
  header : headerLines a <+: sourceLines a file.source ∧ headerLines b <+: sourceLines b other.source
  body : bodyLines a file.source = bodyLines b other.source

section Pages

variable {settings : Settings} {page lineEnd : String}

theorem tidyLines_headerText (h : StartsSolid page) (settings : Settings) :
    tidyLines (headerText (topOf settings) ++ page).toList = headerLines settings ++ tidyLines page.toList := by
  obtain ⟨line, rest, hl, hcontent⟩ := h.exists_line
  unfold topOf headerLines
  split
  · rw [Source.isHeading_header.tidyLines_eq (Source.lines_headerText header page) hl hcontent, List.append_assoc]
    rfl
  · rw [headerText, String.empty_append, List.nil_append]

theorem sourceLines_sourceText (h : StartsSolid page)
    (hl : settings.get .lineEnding = .text lineEnd) (he : lineEnd = "\n" ∨ lineEnd = "\r\n") :
    sourceLines settings (sourceText lineEnd (headerText (topOf settings) ++ page)) =
      headerLines settings ++ (tidyLines page.toList ++ [[]]) := by
  obtain ⟨f, hf, hend⟩ : ∃ f : List Char, '\n' ∉ f ∧ lineEnd.toList = f ++ ['\n'] := by
    rcases he with rfl | rfl
    · exact ⟨[], List.not_mem_nil, rfl⟩
    · exact ⟨['\r'], by decide, rfl⟩
  have ht := tidyLines_headerText h settings
  have hlines : tidyLines (headerText (topOf settings) ++ page).toList ≠ [] := by
    rw [ht]
    exact List.append_ne_nil_of_right_ne_nil _ h.tidyLines_ne_nil
  have hcut := Text.cutBy_joinWith_append hf hlines (fun _ => Source.lineFeed_not_mem_tidyLines) []
  rw [List.append_nil] at hcut
  rw [sourceLines, Settings.shown, hl, Value.display_text, sourceText, String.toList_ofList, Source.tidy, hend, hcut, ht,
    List.append_assoc]
  rfl

theorem sameBody {a b : Settings} {lineEnd other : String} {render : String → String} (name : String) (j k : Nat)
    (h : IsSteady render) (hr : ∀ indent, StartsSolid (render indent))
    (ha : a.get .lineEnding = .text lineEnd) (hb : b.get .lineEnding = .text other)
    (hla : lineEnd = "\n" ∨ lineEnd = "\r\n") (hlb : other = "\n" ∨ other = "\r\n") :
    SameBody a b ⟨name, sourceText lineEnd (headerText (topOf a) ++ render (String.ofList (List.replicate j ' ')))⟩
      ⟨name, sourceText other (headerText (topOf b) ++ render (String.ofList (List.replicate k ' ')))⟩ := by
  have hsa := sourceLines_sourceText (hr (String.ofList (List.replicate j ' '))) ha hla
  have hsb := sourceLines_sourceText (hr (String.ofList (List.replicate k ' '))) hb hlb
  refine ⟨rfl, ⟨⟨_, hsa.symm⟩, ⟨_, hsb.symm⟩⟩, ?_⟩
  rw [bodyLines, bodyLines, hsa, hsb, List.drop_left, List.drop_left, List.map_append, List.map_append,
    h.map_unindented_tidyLines j k]

end Pages

section Alike

variable {a b : Settings} (h : ∀ n, n ∉ Setting.styles → a.get n = b.get n)

include h

theorem shown_alike {n : Setting} (hn : n ∉ Setting.styles) : a.shown n = b.shown n := by
  rw [Settings.shown, Settings.shown, h n hn]

theorem identifier_alike : identifier a = identifier b := by
  funext name
  rw [identifier, identifier, h .escapeKeywords (by decide)]

theorem block_alike : block a = block b := by
  funext s
  rw [block, block, identifier_alike h]

theorem dtoName_alike (s : Schema) : s.dtoName a = s.dtoName b := by
  rw [Schema.dtoName, Schema.dtoName, shown_alike h (by decide)]

theorem mappers_alike (s : Schema) (c : Classifier) : s.mappers a c = s.mappers b c := by
  rw [Schema.mappers, Schema.mappers, dtoName_alike h, shown_alike h (by decide), h .toDtoMethod (by decide),
    h .toEntityMethod (by decide)]

theorem mapperBlock_alike : mapperBlock a = mapperBlock b := by
  funext m
  have ha : assignmentLine a m = assignmentLine b m := by
    funext x
    rw [assignmentLine, assignmentLine, identifier_alike h]
  rw [mapperBlock, mapperBlock, identifier_alike h, ha]

theorem entityPath_alike : a.entityPath = b.entityPath := by
  rw [Settings.entityPath, Settings.entityPath, h .rootNamespace (by decide), h .entityNamespace (by decide)]

theorem dtoPath_alike : a.dtoPath = b.dtoPath := by
  rw [Settings.dtoPath, Settings.dtoPath, h .rootNamespace (by decide), h .dtoNamespace (by decide)]

end Alike

theorem entityPage_render (settings : Settings) (s : Schema) (space indent : String) :
    (entityPage settings s space indent).render = headerText (topOf settings) ++
      Source.EntityPage.render ⟨none, space, block settings ⟨s.name, space, s.entityMembers⟩, indent⟩ := by
  rw [entityPage, Source.EntityPage.render, Source.EntityPage.render]
  simp only [headerText, String.empty_append, String.append_assoc]

theorem dtoPage_render (settings : Settings) (c : Classifier) (s : Schema) (used space indent : String) :
    (dtoPage settings c s used space indent).render = headerText (topOf settings) ++
      Source.DtoPage.render { dtoPage settings c s used space indent with header := none } := by
  rw [dtoPage, Source.DtoPage.render, Source.DtoPage.render]
  simp only [headerText, String.empty_append, String.append_assoc]

theorem exists_lineEnding {settings : Settings}
    (h : settings.get .lineEnding = .text "\n" ∨ settings.get .lineEnding = .text "\r\n") :
    ∃ e, settings.lineEnding = .ok e ∧ settings.get .lineEnding = .text e ∧ (e = "\n" ∨ e = "\r\n") := by
  rcases h with h | h
  · exact ⟨_, by rw [Settings.lineEnding, h], h, .inl rfl⟩
  · exact ⟨_, by rw [Settings.lineEnding, h], h, .inr rfl⟩

/-- With settings that differ in their style only, both generators exist, and if both indent sizes are counts, they give the
same files of any model, up to the header, the spaces at the beginnings of the lines and the line ends. -/
theorem generate_restyled {a b : Settings} (ha : a.WellTyped) (hb : b.WellTyped)
    (h : ∀ n, n ∉ Setting.styles → a.get n = b.get n)
    (hla : a.get .lineEnding = .text "\n" ∨ a.get .lineEnding = .text "\r\n")
    (hlb : b.get .lineEnding = .text "\n" ∨ b.get .lineEnding = .text "\r\n") (s : Schema) :
    ∃ g g', generatorClass.create a = .ok g ∧ generatorClass.create b = .ok g' ∧
      (a.IsIndexSized → b.IsIndexSized → ∃ files others, g.generate s = .ok files ∧ g'.generate s = .ok others ∧
        files.map (·.name) = [entityFile a s.name, dtoFile a s.name] ∧ List.Forall₂ (SameBody a b) files others) ∧
      (¬ a.IsIndexSized → g.generate s = .error (.mismatch .notIndexSized)) ∧
      (¬ b.IsIndexSized → g'.generate s = .error (.mismatch .notIndexSized)) := by
  obtain ⟨c, hc, hbroken⟩ := exists_ofValues ha
  have hc' := hc
  rw [h .extraSimpleTypes (by decide), h .extraCollectionPrefixes (by decide)] at hc'
  refine ⟨_, _, create_of_ofValues hc, create_of_ofValues hc', fun hia hib => ?_,
    fun hi => generate_overflow ha hbroken hi s, fun hi => generate_overflow hb hbroken hi s⟩
  obtain ⟨entitySpace, he⟩ := ha.entityPath_eq
  obtain ⟨dtoSpace, hd⟩ := ha.dtoPath_eq
  obtain ⟨j, hj⟩ := ha.indent_eq hia
  obtain ⟨k, hk⟩ := hb.indent_eq hib
  obtain ⟨lineEnd, hl, hlt, hle⟩ := exists_lineEnding hla
  obtain ⟨other, ho, hot, hoe⟩ := exists_lineEnding hlb
  have hga := generate_eq hbroken he hd hj hl s
  have hgb := generate_eq hbroken (entityPath_alike h ▸ he) (dtoPath_alike h ▸ hd) hk ho s
  have hentity : entityFile a s.name = entityFile b s.name := by
    rw [entityFile, entityFile, shown_alike h (by decide)]
  have hdto : dtoFile a s.name = dtoFile b s.name := by
    rw [dtoFile, dtoFile, shown_alike h (by decide)]
  refine ⟨_, _, hga, hgb, rfl, ?_⟩
  -- All that the pages of `b` show is what those of `a` show, but for the header and the indent.
  refine .cons ?_ (.cons ?_ .nil)
  · rw [entityPage_render, entityPage_render, ← hentity, ← block_alike h]
    have hs := Source.isSteady_entityPage entitySpace (block a ⟨s.name, entitySpace, s.entityMembers⟩)
    have hsame := sameBody (entityFile a s.name) j k hs (Source.startsSolid_entityPage _ _) hlt hot hle hoe
    exact hsame
  · rw [dtoPage_render, dtoPage_render, ← hdto, dtoPage, dtoPage, ← block_alike h, ← mappers_alike h, ← mapperBlock_alike h,
      ← dtoName_alike h]
    have hs := Source.isSteady_dtoPage entitySpace dtoSpace (block a ⟨s.dtoName a, dtoSpace, s.dtoMembers⟩)
      (s.mappers a c).className (mapperBlock a (s.mappers a c).toDto) (mapperBlock a (s.mappers a c).toEntity)
    have hsame := sameBody (dtoFile a s.name) j k hs (Source.startsSolid_dtoPage _ _ _ _ _) hlt hot hle hoe
    exact hsame

/-- A type that goes on after two blank lines, and there after spaces of its own: without a header and an indent, and with
other line ends, the files have the same lines. -/
theorem generate_restyled_bare :
    let a := Settings.default
    let b := ((a.set .addComments (.bool false)).set .indentSize (.int (-1))).set .lineEnding (.text "\r\n")
    let s : Schema := .ofDeclarations "Person" [⟨"Home", "Map<int,\n\n  \n   Address>", true, false⟩]
    a.WellTyped ∧ b.WellTyped ∧ (∀ n, n ∉ Setting.styles → a.get n = b.get n) ∧
      (a.get .lineEnding = .text "\n" ∨ a.get .lineEnding = .text "\r\n") ∧
      (b.get .lineEnding = .text "\n" ∨ b.get .lineEnding = .text "\r\n") ∧ a.IsIndexSized ∧ b.IsIndexSized ∧
      headerLines a = ["// <auto-generated />".toList,
        "// Generated by xml-modelgen. Changes to this file will be lost.".toList, []] ∧ headerLines b = [] ∧
      ∃ g g' e d e' d', generatorClass.create a = .ok g ∧ generatorClass.create b = .ok g' ∧
        g.generate s = .ok [e, d] ∧ g'.generate s = .ok [e', d'] ∧ SameBody a b e e' ∧ SameBody a b d d' ∧
        bodyLines b e'.source = ["namespace AppConsumer.Entities;".toList, [], "public class Person".toList, "\x7b".toList,
          "public Map<int,".toList, [], "Address> Home \x7b get; set; \x7d".toList, "\x7d".toList, []] := by
  intro a b s
  have ha : a.WellTyped := Settings.wellTyped_default
  have hb : b.WellTyped := ((ha.set (by trivial)).set (by trivial)).set (by trivial)
  have h : ∀ n, n ∉ Setting.styles → a.get n = b.get n := by
    intro n hn
    cases n <;> simp_all [a, b, Settings.set, Setting.styles]
  have hla : a.get .lineEnding = .text "\n" ∨ a.get .lineEnding = .text "\r\n" := .inl rfl
  have hlb : b.get .lineEnding = .text "\n" ∨ b.get .lineEnding = .text "\r\n" := .inr rfl
  have hib : b.IsIndexSized := by
    rintro n ⟨⟩
    decide
  obtain ⟨g, g', hg, hg', hrestyled, -⟩ := generate_restyled ha hb h hla hlb s
  obtain ⟨files, others, hf, ho, -, hsame⟩ := hrestyled Settings.isIndexSized_default hib
  obtain ⟨e, d, e', d', hed, hed', he⟩ : ∃ e d e' d', g.generate s = .ok [e, d] ∧ g'.generate s = .ok [e', d'] ∧
      bodyLines b e'.source = ["namespace AppConsumer.Entities;".toList, [], "public class Person".toList, "\x7b".toList,
          "public Map<int,".toList, [], "Address> Home \x7b get; set; \x7d".toList, "\x7d".toList, []] := by
    cases hg
    cases hg'
    exact ⟨_, _, _, _, rfl, rfl, by decide +kernel⟩
  cases hf.symm.trans hed
  cases ho.symm.trans hed'
  obtain ⟨hentity, hrest⟩ := List.forall₂_cons.1 hsame
  obtain ⟨hdto, -⟩ := List.forall₂_cons.1 hrest
  exact ⟨ha, hb, h, hla, hlb, Settings.isIndexSized_default, hib, by decide +kernel, rfl, g, g', e, d, e', d', hg, hg', hed, hed', hentity, hdto, he⟩

/-- The indent sizes differ, and only the smaller of them is a count: one generator gives files, and the other gives none. -/
theorem restyled_too_wide :
    let a := Settings.default
    let b := a.set .indentSize (.int 9223372036854775808)
    a.WellTyped ∧ b.WellTyped ∧ (∀ n, n ∉ Setting.styles → a.get n = b.get n) ∧ a.get .lineEnding = .text "\n" ∧
      b.get .lineEnding = .text "\n" ∧ ∃ g g', generatorClass.create a = .ok g ∧ generatorClass.create b = .ok g' ∧
        (∃ files, g.generate (.ofDeclarations "Person" []) = .ok files) ∧
        ∀ others, g'.generate (.ofDeclarations "Person" []) ≠ .ok others := by
  intro a b
  have ha : a.WellTyped := Settings.wellTyped_default
  have hb : b.WellTyped := ha.set trivial
  have h : ∀ n, n ∉ Setting.styles → a.get n = b.get n := by
    intro n hn
    cases n <;> simp_all [a, b, Settings.set, Setting.styles]
  have hi : ¬ b.IsIndexSized := fun hi => absurd (hi 9223372036854775808 rfl) (by decide)
  obtain ⟨c, hc, hg⟩ := create_eq hb
  refine ⟨ha, hb, h, rfl, rfl, _, _, rfl, hg, ⟨_, rfl⟩, fun others ho => ?_⟩
  cases (generate_overflow hb hc hi _).symm.trans ho

end CSharp

end ModelForge
