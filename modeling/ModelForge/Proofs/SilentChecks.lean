import ModelForge.Proofs.Generation
import ModelForge.Proofs.Names
import ModelForge.Proofs.Source.Headings
import ModelForge.Settings.Check

/-! What follows when the checks find nothing wrong with any name. Each name is a word then, and each namespace consists of
words, but for a line feed that stands at the end of a word and is not noticed. -/

namespace ModelForge

namespace Identifier

/-- The property holds, with or without a line feed behind. -/
def UpToLineFeed (p : List Char → Bool) (s : List Char) : Prop := p s = true ∨ ∃ w, p w = true ∧ s = w ++ ['\n']

variable {p : List Char → Bool} {s : List Char}

theorem UpToLineFeed.of_dropFinalLineFeed (h : p (dropFinalLineFeed s) = true) : UpToLineFeed p s := by
  unfold dropFinalLineFeed at h
  split at h
  · next hl =>
    obtain ⟨w, rfl⟩ := List.getLast?_eq_some_iff.1 hl
    rw [List.dropLast_concat] at h
    exact .inr ⟨w, h, rfl⟩
  · exact .inl h

theorem UpToLineFeed.ne_nil (h : UpToLineFeed isWord s) : s ≠ [] := by
  rintro rfl
  rcases h with h | ⟨w, -, h⟩
  · cases h
  · exact List.append_ne_nil_of_right_ne_nil w (List.cons_ne_nil _ _) h.symm

theorem endsSolid_of_isWord (h : isWord s = true) : Source.EndsSolid s := by
  have hn : s ≠ [] := by
    rintro rfl
    cases h
  have hl := all_isLetterOrDigit_of_isWord h _ (List.getLast_mem hn)
  exact ⟨_, List.getLast?_eq_some_getLast hn, isBlank_of_isNameChar (isNameChar_of_isLetterOrDigit hl)⟩

theorem lineFeed_not_mem_of_isWord (h : isWord s = true) : '\n' ∉ s := fun hm =>
  absurd (all_isLetterOrDigit_of_isWord h _ hm) (by decide)

end Identifier

open Identifier (UpToLineFeed isFull isWord)

/-! Namespaces of such words: every line over which one of them goes ends in a letter, a digit or a semicolon. -/

namespace Source

open Text (joinWith)

theorem endsSolid_of_mem_lines {ps : List (List Char)} (hne : ps ≠ []) (h : ∀ p ∈ ps, UpToLineFeed isWord p)
    {front : List Char} (hf : '\n' ∉ front) :
    ∀ line ∈ Text.lines (front ++ (joinWith ['.'] ps ++ [';'])), EndsSolid line := by
  -- What the induction carries in `front` is the line that has been begun.
  induction ps generalizing front with
  | nil => exact absurd rfl hne
  | cons p ps ih =>
    obtain ⟨hp, hps⟩ := List.forall_mem_cons.1 h
    obtain ⟨tail, ht, hrest⟩ : ∃ tail, joinWith ['.'] (p :: ps) ++ [';'] = p ++ tail ∧
        ∀ begun, '\n' ∉ begun → ∀ line ∈ Text.lines (begun ++ tail), EndsSolid line := by
      by_cases he : ps = []
      · subst he
        refine ⟨[';'], rfl, fun begun hb line hl => ?_⟩
        rw [Text.lines, Text.cutAt_of_not_mem (by simp [hb])] at hl
        rw [List.mem_singleton.1 hl]
        exact EndsSolid.append ⟨';', rfl, by decide⟩ _
      · refine ⟨'.' :: (joinWith ['.'] ps ++ [';']), by simp [Text.joinWith_cons _ _ he], fun begun hb => ?_⟩
        have hd : '\n' ∉ begun ++ ['.'] := by simp [hb]
        simpa [List.append_assoc] using ih he hps hd
    rw [ht]
    rcases hp with hw | ⟨w, hw, rfl⟩
    · rw [← List.append_assoc]
      refine hrest _ ?_
      simp [hf, Identifier.lineFeed_not_mem_of_isWord hw]
    · intro line hl
      rw [List.append_assoc, ← List.append_assoc, List.singleton_append, Text.lines, Text.cutAt_append,
        Text.cutAt_of_not_mem (by simp [hf, Identifier.lineFeed_not_mem_of_isWord hw])] at hl
      rcases List.mem_cons.1 hl with rfl | hl
      · exact (Identifier.endsSolid_of_isWord hw).append front
      · exact hrest [] List.not_mem_nil line hl

theorem isHeading_spaceLine {word space : String} (hw : '\n' ∉ word.toList)
    (h : ∀ p ∈ Text.cutAt '.' space.toList, UpToLineFeed isWord p) :
    IsHeading (Text.lines (spaceLine word space).toList) := by
  refine .of_forall (Text.cutAt_ne_nil _ _) ?_
  rw [spaceLine, String.toList_append, String.toList_append, ← Text.joinWith_cutAt '.' space.toList]
  exact endsSolid_of_mem_lines (Text.cutAt_ne_nil _ _) h hw

theorem isHeading_headerText {text : String} (h : IsHeading (Text.lines text.toList)) (settings : Settings) :
    IsHeading (Text.lines (headerText (CSharp.topOf settings) ++ text).toList) := by
  unfold CSharp.topOf
  split
  · rw [lines_headerText]
    exact .gap isHeading_header h
  · rwa [headerText, String.empty_append]

end Source

/-! The checks. -/

def isNameWarning (w : String) : Bool := " is not a valid C# identifier".toList.isSuffixOf w.toList

def Setting.namespaces : List Setting := [rootNamespace, entityNamespace, dtoNamespace]

def isSegmentWarning (w : String) : Bool :=
  Setting.namespaces.any fun n => ("Invalid " ++ n.key ++ " segment: '").toList.isPrefixOf w.toList

theorem isNameWarning_append (front : String) : isNameWarning (front ++ " is not a valid C# identifier") = true := by
  rw [isNameWarning, String.toList_append]
  exact List.isSuffixOf_iff_suffix.2 (List.suffix_append _ _)

theorem isSegmentWarning_append {n : Setting} (hn : n ∈ Setting.namespaces) (rest : String) :
    isSegmentWarning ("Invalid " ++ n.key ++ " segment: '" ++ rest) = true := by
  refine List.any_eq_true.2 ⟨n, hn, List.isPrefixOf_iff_prefix.2 ⟨rest.toList, ?_⟩⟩
  exact String.toList_append.symm

namespace Settings

variable {s : Settings} {vs : List String}

theorem mem_of_check (h : s.check = .ok vs) {n : Setting} (hn : n ∈ Setting.namespaces) :
    ∃ ws, s.checkSegments n = .ok ws ∧ ∀ w ∈ ws, w ∈ vs := by
  obtain ⟨root, hr, h⟩ := exists_of_bind_eq_ok h
  obtain ⟨entity, he, h⟩ := exists_of_bind_eq_ok h
  obtain ⟨dto, hd, h⟩ := exists_of_bind_eq_ok h
  obtain ⟨extension, -, h⟩ := exists_of_bind_eq_ok h
  obtain ⟨below, -, h⟩ := exists_of_bind_eq_ok h
  cases h
  simp only [Setting.namespaces, List.mem_cons, List.not_mem_nil, or_false] at hn
  rcases hn with rfl | rfl | rfl
  · exact ⟨root, hr, fun w hw => by simp [hw]⟩
  · exact ⟨entity, he, fun w hw => by simp [hw]⟩
  · exact ⟨dto, hd, fun w hw => by simp [hw]⟩

theorem pieces_of_check (h : s.check = .ok vs) (hv : ∀ v ∈ vs, isSegmentWarning v = false) {n : Setting}
    (hn : n ∈ Setting.namespaces) {t : String} (ht : s.get n = .text t) :
    ∀ p ∈ Text.cutAt '.' t.toList, UpToLineFeed isWord p := by
  obtain ⟨ws, hc, hws⟩ := mem_of_check h hn
  intro p hp
  refine .of_dropFinalLineFeed (not_not.1 fun hs => ?_)
  rw [checkSegments, ht] at hc
  cases hc
  have hf : p ∈ (Text.cutAt '.' t.toList).filter (!Identifier.isSegment ·) :=
    List.mem_filter.2 ⟨hp, by simpa [Identifier.isSegment] using hs⟩
  have hq := hv _ (hws _ (List.mem_map_of_mem hf))
  rw [String.append_assoc, isSegmentWarning_append hn] at hq
  cases hq

theorem joinedNamespace_of_check (h : s.check = .ok vs) (hv : ∀ v ∈ vs, isSegmentWarning v = false) {n : Setting}
    (hn : n ∈ Setting.namespaces) {root sub : String} (hr : s.get .rootNamespace = .text root)
    (hs : s.get n = .text sub) :
    joinedNamespace (s.get .rootNamespace) (s.get n) = .ok (root ++ "." ++ sub) ∧
      ∀ p ∈ Text.cutAt '.' (root ++ "." ++ sub).toList, UpToLineFeed isWord p := by
  have hroot := pieces_of_check h hv (by simp [Setting.namespaces]) hr
  have hsub := pieces_of_check h hv hn hs
  refine ⟨?_, ?_⟩
  · rw [hr, hs]
    exact joinedNamespace_of_pieces (fun p hp => (hroot p hp).ne_nil) fun p hp => (hsub p hp).ne_nil
  · rw [String.toList_append, String.toList_append, List.append_assoc]
    intro p hp
    rw [show ".".toList ++ sub.toList = '.' :: sub.toList from rfl, Text.cutAt_append, List.mem_append] at hp
    exact hp.elim (hroot p) (hsub p)

end Settings

/-- The lines of a file start with those of `top`, and end as the settings say. -/
def Artifact.StartsWith (a : Artifact) (lineEnd top : String) : Prop :=
  ∃ ls, Text.lines top.toList <+: ls ∧ a.source = String.ofList (Text.joinWith lineEnd.toList ls ++ lineEnd.toList)

namespace CSharp

open DeclaredType (Classifier)
open Source (entityTop dtoTop)

variable {settings : Settings} {s : Schema} {c : Classifier} {ws vs : List String} {root entity dto : String}

theorem isValid_of_check (h : check settings s = .ok ws) (hw : ∀ w ∈ ws, isNameWarning w = false) :
    ∀ n ∈ s.name :: s.fields.map (·.name), Identifier.isValid n = true := by
  obtain ⟨general, -, h⟩ := exists_of_bind_eq_ok h
  cases h
  refine List.forall_mem_cons.2 ⟨not_not.1 fun hn => ?_, fun n hm => ?_⟩
  · have hq := hw ("Entity name '" ++ s.name ++ "'" ++ " is not a valid C# identifier")
      (by simp [if_neg hn, String.append_assoc])
    rw [isNameWarning_append] at hq
    cases hq
  · obtain ⟨f, hf, rfl⟩ := List.mem_map.1 hm
    refine not_not.1 fun hn => ?_
    have hc : "Field " ++ s.name ++ "." ++ f.name ++ " is not a valid C# identifier" ∈
        checkField (settings.get .escapeKeywords).isSet s.name f := by simp [checkField, hn]
    have hq := hw _ (List.mem_append_right _ (List.mem_flatMap.2 ⟨f, hf, hc⟩))
    rw [isNameWarning_append] at hq
    cases hq

theorem startsWith_of_generate {g : Generator} {as : List Artifact} {used space : String}
    (hg : generatorClass.create settings = .ok g) (ha : g.generate s = .ok as)
    (hu : settings.entityPath = .ok used) (hs : settings.dtoPath = .ok space)
    (hup : ∀ p ∈ Text.cutAt '.' used.toList, UpToLineFeed isWord p)
    (hsp : ∀ p ∈ Text.cutAt '.' space.toList, UpToLineFeed isWord p) :
    ∃ lineEnd e d, settings.get .lineEnding = .text lineEnd ∧ as = [e, d] ∧ e.name = entityFile settings s.name ∧
      d.name = dtoFile settings s.name ∧ e.StartsWith lineEnd (entityTop (topOf settings) used) ∧
      d.StartsWith lineEnd (dtoTop (topOf settings) used space) := by
  obtain ⟨c, rfl⟩ := eq_generator_of_create hg
  obtain ⟨entitySpace, dtoSpace, indent, lineEnd, he, hd, hl, rfl⟩ := eq_of_artifacts (eq_ok_of_mapError_eq_ok ha)
  cases hu.symm.trans he
  cases hs.symm.trans hd
  have hused : Source.IsHeading (Text.lines (Source.spaceLine "using " used).toList) :=
    Source.isHeading_spaceLine (by decide) hup
  have hentity : Source.IsHeading (Text.lines (Source.spaceLine "namespace " used).toList) :=
    Source.isHeading_spaceLine (by decide) hup
  have hdto : Source.IsHeading (Text.lines (Source.spaceLine "namespace " space).toList) :=
    Source.isHeading_spaceLine (by decide) hsp
  refine ⟨lineEnd, _, _, hl, rfl, rfl, rfl, ⟨_, ?_, rfl⟩, ⟨_, ?_, rfl⟩⟩
  · exact Source.prefix_lines_entityPage (p := entityPage settings s used indent) (Source.isHeading_headerText hentity _)
  · refine Source.prefix_lines_dtoPage (p := dtoPage settings c s used space indent) (Source.isHeading_headerText ?_ _)
    rw [Source.lines_append_gap]
    exact .gap hused hdto

/-- When no name is warned of, every name is a word, and both files start with the namespaces as configured; but each word
may have a line feed behind it. -/
theorem upToLineFeed_of_silent {g : Generator} (hr : settings.get .rootNamespace = .text root)
    (he : settings.get .entityNamespace = .text entity) (hd : settings.get .dtoNamespace = .text dto)
    (hg : generatorClass.create settings = .ok g) (hw : g.warnings s = .ok ws) (hws : ∀ w ∈ ws, isNameWarning w = false)
    (hv : settings.check = .ok vs) (hvs : ∀ v ∈ vs, isSegmentWarning v = false) :
    (∀ n ∈ s.name :: s.fields.map (·.name), UpToLineFeed isFull n.toList) ∧
      (∀ space ∈ [root ++ "." ++ entity, root ++ "." ++ dto], ∀ p ∈ Text.cutAt '.' space.toList, UpToLineFeed isWord p) ∧
      ∀ as, g.generate s = .ok as → ∃ lineEnd e d, settings.get .lineEnding = .text lineEnd ∧ as = [e, d] ∧
        e.name = entityFile settings s.name ∧ d.name = dtoFile settings s.name ∧
        e.StartsWith lineEnd (entityTop (topOf settings) (root ++ "." ++ entity)) ∧
        d.StartsWith lineEnd (dtoTop (topOf settings) (root ++ "." ++ entity) (root ++ "." ++ dto)) := by
  have hcheck : check settings s = .ok ws := by
    obtain ⟨c, rfl⟩ := eq_generator_of_create hg
    exact hw
  obtain ⟨hej, hep⟩ := Settings.joinedNamespace_of_check hv hvs (by simp [Setting.namespaces]) hr he
  obtain ⟨hdj, hdp⟩ := Settings.joinedNamespace_of_check hv hvs (by simp [Setting.namespaces]) hr hd
  refine ⟨fun n hn => .of_dropFinalLineFeed (isValid_of_check hcheck hws n hn), ?_, fun as ha => ?_⟩
  · exact List.forall_mem_cons.2 ⟨hep, List.forall_mem_singleton.2 hdp⟩
  · exact startsWith_of_generate hg ha hej hdj hep hdp

/-- A model and its settings without anything to warn of. -/
theorem upToLineFeed_of_silent_default :
    let s : Schema := .ofDeclarations "Person" [⟨"Id", "int", true, true⟩]
    ∃ g e d, generatorClass.create .default = .ok g ∧ g.warnings s = .ok [] ∧ Settings.default.check = .ok [] ∧
      g.generate s = .ok [e, d] ∧ (∀ n ∈ s.name :: s.fields.map (·.name), UpToLineFeed isFull n.toList) ∧
      e.StartsWith "\n" (Source.entityTop (some header) "AppConsumer.Entities") ∧
      d.StartsWith "\n" (Source.dtoTop (some header) "AppConsumer.Entities" "AppConsumer.DTOs") := by
  intro s
  have hs : (∀ w ∈ ([] : List String), isNameWarning w = false) ∧ ∀ v ∈ ([] : List String), isSegmentWarning v = false :=
    ⟨nofun, nofun⟩
  obtain ⟨g, hg⟩ : ∃ g, generatorClass.create .default = .ok g := ⟨_, rfl⟩
  have hw : g.warnings s = .ok [] := by
    cases hg
    exact eq_ok_of_toOption (by decide +kernel)
  have hv : Settings.default.check = .ok [] := eq_ok_of_toOption (by decide +kernel)
  obtain ⟨hn, -, hf⟩ := upToLineFeed_of_silent rfl rfl rfl hg hw hs.1 hv hs.2
  obtain ⟨e, d, ha⟩ : ∃ e d, g.generate s = .ok [e, d] := by
    cases hg
    exact ⟨_, _, rfl⟩
  obtain ⟨lineEnd, e', d', hl, hed, -, -, he, hd⟩ := hf _ ha
  cases hl
  cases hed
  exact ⟨g, e, d, hg, hw, hv, ha, hn, he, hd⟩

/-- Neither check says anything, though no name is a word and the namespaces go over two lines. -/
theorem lineFeed_unnoticed :
    let settings := (Settings.default.set .rootNamespace (.text "App\n")).set .addComments (.bool false)
    let s : Schema := .ofDeclarations "Person\n" [⟨"Id\n", "int", true, true⟩]
    ∃ g e d, generatorClass.create settings = .ok g ∧ g.warnings s = .ok [] ∧ settings.check = .ok [] ∧
      (∀ n ∈ s.name :: s.fields.map (·.name), isFull n.toList = false) ∧ g.generate s = .ok [e, d] ∧
      e.StartsWith "\n" (entityTop none "App\n.Entities") ∧ d.StartsWith "\n" (dtoTop none "App\n.Entities" "App\n.DTOs") ∧
      Text.lines (entityTop none "App\n.Entities").toList = ["namespace App".toList, ".Entities;".toList] ∧
      Text.lines (dtoTop none "App\n.Entities" "App\n.DTOs").toList =
        ["using App".toList, ".Entities;".toList, [], "namespace App".toList, ".DTOs;".toList] := by
  intro settings s
  obtain ⟨g, hg⟩ : ∃ g, generatorClass.create settings = .ok g := ⟨_, rfl⟩
  have hw : g.warnings s = .ok [] := by
    cases hg
    exact eq_ok_of_toOption (by decide +kernel)
  obtain ⟨as, ha⟩ : ∃ as, g.generate s = .ok as := by
    cases hg
    exact ⟨_, rfl⟩
  have hv : settings.check = .ok [] := eq_ok_of_toOption (by decide +kernel)
  obtain ⟨hej, hep⟩ :=
    Settings.joinedNamespace_of_check hv (List.forall_mem_nil _) (by simp [Setting.namespaces]) (n := .entityNamespace) rfl rfl
  obtain ⟨hdj, hdp⟩ :=
    Settings.joinedNamespace_of_check hv (List.forall_mem_nil _) (by simp [Setting.namespaces]) (n := .dtoNamespace) rfl rfl
  obtain ⟨lineEnd, e, d, hl, hed, -, -, he, hd⟩ := startsWith_of_generate hg ha hej hdj hep hdp
  cases hl
  cases hed
  exact ⟨g, e, d, hg, hw, hv, by decide +kernel, ha, he, hd, by decide +kernel, by decide +kernel⟩

end CSharp

end ModelForge
