import ModelForge.Proofs.Text.Stripping
import ModelForge.Source.Tidy

/-! The lines of a source text that show something. Tidying a text leaves them as they are. -/

namespace ModelForge

namespace Text

variable {sep : Char}

theorem cutAt_joinWith_append {pieces : List (List Char)} (hne : pieces ≠ []) (h : ∀ p ∈ pieces, sep ∉ p)
    (s : List Char) : cutAt sep (joinWith [sep] pieces ++ sep :: s) = pieces ++ cutAt sep s := by
  induction pieces with
  | nil => exact absurd rfl hne
  | cons p ps ih =>
    have hp := h p (List.mem_cons_self ..)
    cases ps with
    | nil => rw [joinWith, cutAt_append, cutAt_of_not_mem hp]
    | cons q qs =>
      rw [joinWith_cons _ _ (by simp), List.append_assoc, List.append_assoc, List.singleton_append, cutAt_append,
        cutAt_of_not_mem hp, ih (by simp) fun x hx => h x (List.mem_cons_of_mem _ hx)]
      rfl

theorem mem_joinWith {pieces : List (List Char)} {c : Char} (h : c ∈ joinWith [sep] pieces) :
    c = sep ∨ ∃ p ∈ pieces, c ∈ p := by
  induction pieces with
  | nil => cases h
  | cons p ps ih =>
    by_cases hp : ps = []
    · subst hp
      exact .inr ⟨p, List.mem_cons_self .., h⟩
    · rw [joinWith_cons _ _ hp, List.append_assoc, List.mem_append, List.mem_append, List.mem_singleton] at h
      rcases h with h | h | h
      · exact .inr ⟨p, List.mem_cons_self .., h⟩
      · exact .inl h
      · obtain h | ⟨q, hq, hc⟩ := ih h
        · exact .inl h
        · exact .inr ⟨q, List.mem_cons_of_mem _ hq, hc⟩

end Text

namespace Source

open Text (isBlank trim trimEnd)

def isContent (line : List Char) : Bool := !line.all isBlank

/-- The lines that are not blank, without the blanks around them. -/
def contentLines (s : List Char) : List (List Char) := ((Text.lines s).filter isContent).map trim

theorem isContent_trimEnd (line : List Char) : isContent (trimEnd line) = isContent line := by
  rw [isContent, Text.all_isBlank_trimEnd]
  rfl

theorem isContent_of_isEmpty {line : List Char} (h : line.isEmpty = true) : isContent line = false := by
  rw [List.isEmpty_iff.1 h]
  rfl

theorem filter_collapse (ls : List (List Char)) : (collapse ls).filter isContent = ls.filter isContent := by
  fun_induction collapse ls with
  | case1 => rfl
  | case2 => rfl
  | case3 a b rest h ih =>
    rw [ih, List.filter_cons_of_neg (a := a)]
    simp [isContent_of_isEmpty (Bool.and_eq_true_iff.1 h).1]
  | case4 a b rest h ih => rw [List.filter_cons, List.filter_cons, ih]

theorem filter_tidyLines (s : List Char) :
    (tidyLines s).filter isContent = ((Text.lines s).filter isContent).map trimEnd := by
  rw [tidyLines, Text.filter_stripBy (fun _ => isContent_of_isEmpty), filter_collapse, List.filter_map]
  congr 1
  exact List.filter_congr fun line _ => isContent_trimEnd line

theorem mem_collapse {ls : List (List Char)} {line : List Char} (h : line ∈ collapse ls) : line ∈ ls := by
  fun_induction collapse ls with
  | case1 => exact h
  | case2 => exact h
  | case3 a b rest _ ih => exact List.mem_cons_of_mem _ (ih h)
  | case4 a b rest _ ih =>
    rcases List.mem_cons.1 h with rfl | h
    · exact List.mem_cons_self ..
    · exact List.mem_cons_of_mem _ (ih h)

theorem lineFeed_not_mem_tidyLines {s line : List Char} (h : line ∈ tidyLines s) : '\n' ∉ line := by
  obtain ⟨l, hl, rfl⟩ := List.mem_map.1 (mem_collapse (Text.mem_of_mem_stripBy h))
  obtain ⟨b, he, -⟩ := Text.exists_trimEnd_append l
  have hn := Text.not_mem_of_mem_cutAt hl
  rw [he, List.mem_append, not_or] at hn
  exact hn.1

theorem contentLines_lineFeed (s : List Char) : contentLines ('\n' :: s) = contentLines s := by
  rw [contentLines, Text.lines, Text.cutAt_cons_self]
  rfl

theorem contentLines_tidy (s : List Char) : contentLines (tidy ['\n'] s) = contentLines s := by
  have hl : (Text.lines (tidy ['\n'] s)).filter isContent = (tidyLines s).filter isContent := by
    by_cases hs : tidyLines s = []
    · rw [tidy, hs]
      rfl
    · rw [tidy, Text.lines, Text.cutAt_joinWith_append hs fun _ => lineFeed_not_mem_tidyLines, List.filter_append]
      exact List.append_nil _
  rw [contentLines, hl, filter_tidyLines, List.map_map]
  exact List.map_congr_left fun line _ => Text.trim_trimEnd line

/-- A line in one piece, with no blank at its ends. -/
structure IsLine (line : List Char) : Prop where
  noLineFeed : '\n' ∉ line
  first : ∃ c, line.head? = some c ∧ isBlank c = false
  last : ∃ c, line.getLast? = some c ∧ isBlank c = false

namespace IsLine

variable {line : List Char}

theorem trim_eq (h : IsLine line) : trim line = line := Text.stripBy_eq_self h.first h.last

theorem isContent (h : IsLine line) : isContent line = true := by
  obtain ⟨-, ⟨c, hc, hcb⟩, -⟩ := h
  obtain ⟨t, rfl⟩ := List.head?_eq_some_iff.1 hc
  simp [Source.isContent, hcb]

theorem contentLines_append (h : IsLine line) (k : Nat) (s : List Char) :
    contentLines (List.replicate k ' ' ++ (line ++ '\n' :: s)) = line :: contentLines s := by
  have hb : ∀ c ∈ List.replicate k ' ', isBlank c = true := by
    intro c hc
    rw [List.eq_of_mem_replicate hc]
    decide
  have hn : '\n' ∉ List.replicate k ' ' ++ line := by simp [h.noLineFeed]
  have hc : Source.isContent (List.replicate k ' ' ++ line) = true := by
    rw [Source.isContent, List.all_append, List.all_eq_true.2 hb, Bool.true_and]
    exact h.isContent
  rw [← List.append_assoc, contentLines, Text.lines, Text.cutAt_append, Text.cutAt_of_not_mem hn, List.singleton_append,
    List.filter_cons_of_pos hc, List.map_cons, Text.trim_blank_append hb, h.trim_eq]
  rfl

end IsLine

/-- Wherever the text stands, its lines are these. -/
def Shows (text : String) (ls : List String) : Prop :=
  ∀ s, contentLines (text.toList ++ s) = ls.map String.toList ++ contentLines s

theorem shows_lineFeed : Shows "\n" [] := contentLines_lineFeed

theorem shows_line {line : String} (h : IsLine line.toList) (k : Nat) :
    Shows (String.ofList (List.replicate k ' ') ++ (line ++ "\n")) [line] := by
  intro s
  rw [String.toList_append, String.toList_append, String.toList_ofList, List.append_assoc, List.append_assoc]
  exact h.contentLines_append k s

namespace Shows

variable {text other : String} {ls ms : List String}

theorem append (h : Shows text ls) (ho : Shows other ms) : Shows (text ++ other) (ls ++ ms) := by
  intro s
  rw [String.toList_append, List.append_assoc, h, ho, List.map_append, List.append_assoc]

theorem join {α : Type} {as : List α} {render : α → String} {line : α → String}
    (h : ∀ a ∈ as, Shows (render a) [line a]) : Shows (String.join (as.map render)) (as.map line) := by
  induction as with
  | nil => exact fun _ => rfl
  | cons a as ih =>
    rw [List.map_cons, String.join_cons, List.map_cons]
    exact (h a (List.mem_cons_self ..)).append (ih fun x hx => h x (List.mem_cons_of_mem _ hx))

theorem contentLines_eq (h : Shows text ls) : contentLines text.toList = ls.map String.toList := by
  have := h []
  rwa [List.append_nil, show contentLines [] = [] from rfl, List.append_nil] at this

end Shows

end Source

end ModelForge
