import ModelForge.CSharp.Generator
import ModelForge.Proofs.Source.Listing

/-! The lines at the top of a page, down to its namespace. Tidying the page leaves them as they are if none of them ends in
a blank and no two of them in a row are empty. -/

namespace ModelForge

namespace Source

open Text (isBlank trimEnd)

/-- The last character is no blank. -/
def EndsSolid (line : List Char) : Prop := ∃ c, line.getLast? = some c ∧ isBlank c = false

theorem EndsSolid.isEmpty_eq_false {line : List Char} (h : EndsSolid line) : line.isEmpty = false := by
  obtain ⟨c, hc, -⟩ := h
  cases line with
  | nil => cases hc
  | cons => rfl

theorem EndsSolid.append {line : List Char} (h : EndsSolid line) (front : List Char) : EndsSolid (front ++ line) := by
  obtain ⟨c, hc, hb⟩ := h
  exact ⟨c, by rw [List.getLast?_append, hc]; rfl, hb⟩

/-- Lines that end in no blank, with single empty lines between some of them. -/
inductive IsHeading : List (List Char) → Prop where
  | line {line : List Char} (h : EndsSolid line) : IsHeading [line]
  | append {a b : List (List Char)} (ha : IsHeading a) (hb : IsHeading b) : IsHeading (a ++ b)
  | gap {a b : List (List Char)} (ha : IsHeading a) (hb : IsHeading b) : IsHeading (a ++ [] :: b)

theorem collapse_cons {line : List Char} (h : line.isEmpty = false) (ls : List (List Char)) :
    collapse (line :: ls) = line :: collapse ls := by
  cases ls with
  | nil => rfl
  | cons l ls => rw [collapse, h, Bool.false_and, if_neg Bool.false_ne_true]

theorem collapse_nil_cons {line : List Char} (h : line.isEmpty = false) (ls : List (List Char)) :
    collapse ([] :: line :: ls) = [] :: collapse (line :: ls) := by
  rw [collapse, h, Bool.and_false, if_neg Bool.false_ne_true]

namespace IsHeading

variable {ls : List (List Char)}

theorem of_forall (hne : ls ≠ []) (h : ∀ line ∈ ls, EndsSolid line) : IsHeading ls := by
  induction ls with
  | nil => exact absurd rfl hne
  | cons l ls ih =>
    obtain ⟨hl, hls⟩ := List.forall_mem_cons.1 h
    by_cases he : ls = []
    · exact he ▸ .line hl
    · exact .append (.line hl) (ih he hls)

theorem exists_head (h : IsHeading ls) : ∃ line, ls.head? = some line ∧ line.isEmpty = false := by
  induction h with
  | line h => exact ⟨_, rfl, h.isEmpty_eq_false⟩
  | append _ _ iha _ =>
    obtain ⟨line, hl, he⟩ := iha
    exact ⟨line, by rw [List.head?_append, hl]; rfl, he⟩
  | gap _ _ iha _ =>
    obtain ⟨line, hl, he⟩ := iha
    exact ⟨line, by rw [List.head?_append, hl]; rfl, he⟩

theorem exists_getLast (h : IsHeading ls) : ∃ line, ls.getLast? = some line ∧ line.isEmpty = false := by
  induction h with
  | line h => exact ⟨_, rfl, h.isEmpty_eq_false⟩
  | append _ _ _ ihb =>
    obtain ⟨line, hl, he⟩ := ihb
    exact ⟨line, by rw [List.getLast?_append, hl]; rfl, he⟩
  | gap _ _ _ ihb =>
    obtain ⟨line, hl, he⟩ := ihb
    exact ⟨line, by rw [List.getLast?_append, List.getLast?_cons, hl]; rfl, he⟩

theorem map_trimEnd (h : IsHeading ls) : ls.map trimEnd = ls := by
  induction h with
  | line h => rw [List.map_singleton, Text.trimEnd_eq_self h]
  | append _ _ iha ihb => rw [List.map_append, iha, ihb]
  | gap _ _ iha ihb => rw [List.map_append, List.map_cons, iha, ihb, Text.trimEnd_nil]

theorem collapse_append (h : IsHeading ls) (rest : List (List Char)) : collapse (ls ++ rest) = ls ++ collapse rest := by
  induction h generalizing rest with
  | line h => exact collapse_cons h.isEmpty_eq_false rest
  | append _ _ iha ihb => rw [List.append_assoc, iha, ihb, List.append_assoc]
  | gap _ hb iha ihb =>
    obtain ⟨line, hl, he⟩ := hb.exists_head
    obtain ⟨t, rfl⟩ := List.head?_eq_some_iff.1 hl
    calc collapse ((_ ++ [] :: line :: t) ++ rest) = _ ++ collapse ([] :: line :: (t ++ rest)) := by
          rw [List.append_assoc, iha]; rfl
      _ = _ ++ [] :: (line :: t ++ collapse rest) := by rw [collapse_nil_cons he, ← List.cons_append, ihb]
      _ = (_ ++ [] :: line :: t) ++ collapse rest := by rw [List.append_assoc]; rfl

theorem prefix_tidyLines {s : List Char} {rest : List (List Char)} (h : IsHeading ls) (hs : Text.lines s = ls ++ rest) :
    ls <+: tidyLines s := by
  rw [tidyLines, hs, List.map_append, h.map_trimEnd, h.collapse_append]
  exact Text.prefix_stripBy h.exists_head h.exists_getLast _

end IsHeading

/-! The tops of both pages, up to the line feed after the namespace. -/

def entityTop (header : Option String) (space : String) : String := headerText header ++ spaceLine "namespace " space

def dtoTop (header : Option String) (used space : String) : String :=
  headerText header ++ (spaceLine "using " used ++ "\n\n" ++ spaceLine "namespace " space)

theorem lines_append_lineFeed (a b : String) :
    Text.lines (a ++ "\n" ++ b).toList = Text.lines a.toList ++ Text.lines b.toList := by
  rw [String.toList_append, String.toList_append, List.append_assoc]
  exact Text.cutAt_append '\n' a.toList b.toList

theorem lines_append_gap (a b : String) :
    Text.lines (a ++ "\n\n" ++ b).toList = Text.lines a.toList ++ [] :: Text.lines b.toList := by
  have hb : ("\n" ++ b).toList = '\n' :: b.toList := by rw [String.toList_append]; rfl
  rw [show "\n\n" = "\n" ++ "\n" from rfl, ← String.append_assoc, String.append_assoc, lines_append_lineFeed, hb, Text.lines,
    Text.lines, Text.cutAt_cons_self]
  rfl

theorem lineFeed_not_mem_commentLine {line : List Char} (h : '\n' ∉ line) : '\n' ∉ commentLine ['/', '/'] line := by
  unfold commentLine
  split
  · exact h
  · simp [h]

theorem lines_headerText (header text : String) :
    Text.lines (headerText (some header) ++ text).toList =
      (Text.lines header.toList).map (commentLine ['/', '/']) ++ [] :: Text.lines text.toList := by
  have hne : (Text.lines header.toList).map (commentLine ['/', '/']) ≠ [] := by
    rw [ne_eq, List.map_eq_nil_iff]
    exact Text.cutAt_ne_nil _ _
  have hn : ∀ line ∈ (Text.lines header.toList).map (commentLine ['/', '/']), '\n' ∉ line := by
    intro line hl
    obtain ⟨l, hm, rfl⟩ := List.mem_map.1 hl
    exact lineFeed_not_mem_commentLine (Text.not_mem_of_mem_cutAt hm)
  have hs : (headerText (some header) ++ text).toList =
      comment ['/', '/'] header.toList ++ '\n' :: '\n' :: text.toList := by
    simp only [headerText, String.toList_append, String.toList_ofList, List.append_assoc]
    rfl
  rw [hs, comment, Text.lines, Text.cutAt_joinWith_append hne hn, Text.cutAt_cons_self, ← Text.lines]

theorem isHeading_header : IsHeading ((Text.lines CSharp.header.toList).map (commentLine ['/', '/'])) := by
  apply IsHeading.of_forall
  · decide +kernel
  · have hl : (Text.lines CSharp.header.toList).map (commentLine ['/', '/']) = ["// <auto-generated />".toList,
        "// Generated by xml-modelgen. Changes to this file will be lost.".toList] := by decide +kernel
    rw [hl]
    simp only [List.forall_mem_cons, List.not_mem_nil, false_imp_iff, implies_true, and_true]
    exact ⟨⟨'>', by decide, by decide⟩, ⟨'.', by decide, by decide⟩⟩

theorem prefix_lines_entityPage {p : EntityPage} (h : IsHeading (Text.lines (entityTop p.header p.space).toList)) :
    Text.lines (entityTop p.header p.space).toList <+: tidyLines p.render.toList := by
  have hr : p.render = entityTop p.header p.space ++ "\n" ++ ("\n" ++ p.block.render p.indent) := by
    rw [EntityPage.render, entityTop, spaceLine, show ";\n\n" = ";" ++ ("\n" ++ "\n") from rfl]
    simp only [String.append_assoc]
  exact h.prefix_tidyLines (hr ▸ lines_append_lineFeed _ _)

theorem prefix_lines_dtoPage {p : DtoPage} (h : IsHeading (Text.lines (dtoTop p.header p.used p.space).toList)) :
    Text.lines (dtoTop p.header p.used p.space).toList <+: tidyLines p.render.toList := by
  have hr : p.render = dtoTop p.header p.used p.space ++ "\n" ++ ("\n" ++ (p.block.render p.indent ++
      ("\npublic static class " ++ p.mapperClass ++ "\n\x7b\n" ++
        String.intercalate "\n" (p.mappers.map (·.render p.indent)) ++ "\x7d\n"))) := by
    rw [DtoPage.render, dtoTop, spaceLine, spaceLine, show ";\n\n" = ";" ++ ("\n" ++ "\n") from rfl,
      show ";\n\nnamespace " = ";" ++ ("\n" ++ ("\n" ++ "namespace ")) from rfl,
      show "\n\n" = "\n" ++ "\n" from rfl]
    simp only [String.append_assoc]
  exact h.prefix_tidyLines (hr ▸ lines_append_lineFeed _ _)

end Source

end ModelForge
