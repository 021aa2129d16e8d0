import ModelForge.Proofs.Source.Headings
import ModelForge.Proofs.Source.Tidied

/-! Lines without the spaces before them. However far a page is indented, these lines are the same, and tidying keeps them
the same; a header only comes before them. -/

namespace ModelForge

namespace Text

/-- The pieces between the occurrences of a text, which are found from left to right. -/
def cutBy (sep s : List Char) : List (List Char) := go 0 s
where
  /-- Passes over the characters of an occurrence that are still left of it. -/
  go : Nat → List Char → List (List Char)
    | _, [] => [[]]
    | left + 1, _ :: rest => go left rest
    | 0, c :: rest =>
      if sep.isPrefixOf (c :: rest) then [] :: go (sep.length - 1) rest else (go 0 rest).modifyHead (c :: ·)

section Cut

variable {f piece : List Char} {x : Char}

theorem go_append (sep u rest : List Char) : cutBy.go sep u.length (u ++ rest) = cutBy.go sep 0 rest := by
  induction u with
  | nil => rfl
  | cons c u ih => exact ih

/-- An occurrence is not met early if its last character is neither before it nor twice in it. -/
theorem cutBy_append (hf : x ∉ f) (hp : x ∉ piece) (rest : List Char) :
    cutBy (f ++ [x]) (piece ++ (f ++ [x]) ++ rest) = piece :: cutBy (f ++ [x]) rest := by
  induction piece with
  | nil =>
    obtain ⟨c, u, hu⟩ : ∃ c u, f ++ [x] = c :: u := List.exists_cons_of_ne_nil (by simp)
    have hpre : (f ++ [x]).isPrefixOf (c :: (u ++ rest)) = true := by
      rw [List.isPrefixOf_iff_prefix, hu]
      exact ⟨rest, rfl⟩
    have hlen : (f ++ [x]).length - 1 = u.length := by rw [hu, List.length_cons, Nat.add_sub_cancel]
    have hs : [] ++ (f ++ [x]) ++ rest = c :: (u ++ rest) := by rw [List.nil_append, hu, List.cons_append]
    rw [cutBy, hs, cutBy.go, if_pos hpre, hlen, go_append, cutBy]
  | cons c piece ih =>
    rw [List.mem_cons, not_or] at hp
    have hpre : ¬ (f ++ [x]).isPrefixOf (c :: (piece ++ (f ++ [x]) ++ rest)) = true := by
      rw [List.isPrefixOf_iff_prefix]
      rintro ⟨t, ht⟩
      -- The last character of the occurrence would stand further to the left than it does.
      have he : (c :: piece ++ f) ++ x :: rest = f ++ x :: t := by simpa using ht.symm
      have hx : (c :: piece ++ f)[f.length]? = some x := by
        have hl : f.length < (c :: piece ++ f).length := by
          rw [List.length_append, List.length_cons]
          omega
        rw [← List.getElem?_append_left hl, he]
        simp
      exact absurd (List.mem_of_getElem? hx) (by simp [hf, hp.1, hp.2])
    have ih := ih hp.2
    rw [cutBy] at ih ⊢
    rw [List.cons_append, List.cons_append, cutBy.go, if_neg hpre, ih]
    rfl

theorem cutBy_joinWith_append {pieces : List (List Char)} (hf : x ∉ f) (hne : pieces ≠ []) (hp : ∀ p ∈ pieces, x ∉ p)
    (s : List Char) : cutBy (f ++ [x]) (joinWith (f ++ [x]) pieces ++ (f ++ [x]) ++ s) = pieces ++ cutBy (f ++ [x]) s := by
  induction pieces with
  | nil => exact absurd rfl hne
  | cons p ps ih =>
    have hc := cutBy_append hf (hp p (List.mem_cons_self ..))
    by_cases hps : ps = []
    · subst hps
      exact hc s
    · have hs : joinWith (f ++ [x]) (p :: ps) ++ (f ++ [x]) ++ s =
          p ++ (f ++ [x]) ++ (joinWith (f ++ [x]) ps ++ (f ++ [x]) ++ s) := by
        rw [joinWith_cons _ _ hps]
        simp only [List.append_assoc]
      rw [hs, hc, ih hps fun q hq => hp q (List.mem_cons_of_mem _ hq)]
      rfl

end Cut

end Text

namespace Source

open Text (isBlank trimEnd)

/-! Lines without their indent. -/

def unindented (line : List Char) : List Char := line.dropWhile (· = ' ')

def bareLines (s : List Char) : List (List Char) := (Text.lines s).map unindented

section Unindented

variable {line : List Char}

theorem exists_append_unindented (line : List Char) : ∃ k, line = List.replicate k ' ' ++ unindented line := by
  refine ⟨(line.takeWhile (· = ' ')).length, ?_⟩
  have hr : line.takeWhile (· = ' ') = List.replicate (line.takeWhile (· = ' ')).length ' ' :=
    List.eq_replicate_of_mem fun c hc => by simpa using List.mem_takeWhile_imp hc
  rw [← hr]
  exact List.takeWhile_append_dropWhile.symm

theorem isBlank_of_mem_replicate {k : Nat} {c : Char} (h : c ∈ List.replicate k ' ') : isBlank c = true := by
  rw [List.eq_of_mem_replicate h]
  decide

theorem isContent_unindented (line : List Char) : isContent (unindented line) = isContent line := by
  obtain ⟨k, hk⟩ := exists_append_unindented line
  have hb : (List.replicate k ' ').all isBlank = true := List.all_eq_true.2 fun _ => isBlank_of_mem_replicate
  rw [isContent, isContent]
  conv_rhs => rw [hk, List.all_append, hb, Bool.true_and]

theorem getLast?_unindented (h : ∀ c ∈ line.getLast?, isBlank c = false) :
    (unindented line).getLast? = line.getLast? := by
  obtain ⟨k, hk⟩ := exists_append_unindented line
  cases hu : (unindented line).getLast? with
  | some c =>
    conv_rhs => rw [hk, List.getLast?_append, hu]
    rfl
  | none =>
    rw [List.getLast?_eq_none_iff] at hu
    rw [hu, List.append_nil] at hk
    cases hl : line.getLast? with
    | none => rfl
    | some c =>
      have hc := h c hl
      rw [isBlank_of_mem_replicate (hk ▸ List.mem_of_getLast? hl)] at hc
      cases hc

theorem isFilled_unindented (h : ∀ c ∈ line.getLast?, isBlank c = false) : isFilled (unindented line) = isFilled line := by
  have hf : ∀ l : List Char, isFilled l = l.getLast?.isSome := by
    intro l
    cases l with
    | nil => rfl
    | cons c l => rw [List.getLast?_cons]; rfl
  rw [hf, hf, getLast?_unindented h]

theorem trimEnd_unindented (line : List Char) : trimEnd (unindented line) = unindented (trimEnd line) := by
  have hs : ∀ c ∈ (trimEnd line).getLast?, isBlank c = false := fun _ => isBlank_getLast?_trimEnd
  by_cases ht : isFilled (trimEnd line) = true
  · have hne : (unindented (trimEnd line)).isEmpty = false := by
      rw [← isFilled_unindented hs, isFilled] at ht
      simpa using ht
    obtain ⟨b, hline, hb⟩ := Text.exists_trimEnd_append line
    have hu : unindented line = unindented (trimEnd line) ++ b := by
      rw [unindented] at hne ⊢
      conv_lhs => rw [hline, List.dropWhile_append, hne, if_neg Bool.false_ne_true]
      rfl
    rw [hu, Text.trimEnd_append_blank hb]
    apply Text.trimEnd_eq_self
    cases hl : (unindented (trimEnd line)).getLast? with
    | none => rw [List.getLast?_eq_none_iff.1 hl] at hne; cases hne
    | some c =>
      rw [getLast?_unindented hs] at hl
      exact ⟨c, rfl, hs c hl⟩
  · -- Nothing but blanks stands in the line.
    have hu := isFilled_trimEnd (unindented line)
    rw [isContent_unindented, ← isFilled_trimEnd] at hu
    have hn : ¬ isFilled (trimEnd (unindented line)) = true := by rw [hu]; exact ht
    rw [eq_nil_of_not_isFilled ht, eq_nil_of_not_isFilled hn]
    rfl

end Unindented

section Tidied

variable {ls tidied : List (List Char)} {s t : List Char}

theorem runsBefore_congr {α : Type} {p q : α → Bool} {l : List α} (h : ∀ x ∈ l, p x = q x) :
    runsBefore p l = runsBefore q l := by
  induction l with
  | nil => rfl
  | cons x l ih =>
    rw [runsBefore, runsBefore, h x (List.mem_cons_self ..), ih fun y hy => h y (List.mem_cons_of_mem _ hy)]

theorem IsTidied.map_unindented (h : IsTidied ls tidied) : IsTidied (ls.map unindented) (tidied.map unindented) := by
  have hfilled : ∀ line ∈ tidied, isFilled (unindented line) = isFilled line := fun line hl =>
    isFilled_unindented (h.solid line hl)
  have hends : ∀ line ∈ tidied, unindented line = [] → line = [] := by
    intro line hl hu
    have hf := hfilled line hl
    rw [hu] at hf
    exact eq_nil_of_not_isFilled (by rw [← hf]; decide)
  refine ⟨?_, ?_, ?_, ?_, ?_⟩
  · have hl : ((ls.map unindented).filter isContent).map trimEnd = ((ls.filter isContent).map trimEnd).map unindented := by
      rw [List.filter_map, List.map_map, List.map_map]
      have hc : isContent ∘ unindented = isContent := funext isContent_unindented
      rw [hc]
      exact List.map_congr_left fun line _ => trimEnd_unindented line
    rw [hl, ← h.content, List.filter_map]
    exact congrArg _ (List.filter_congr hfilled)
  · intro line hl c hc
    obtain ⟨full, hf, rfl⟩ := List.mem_map.1 hl
    rw [getLast?_unindented (h.solid full hf)] at hc
    exact h.solid full hf c hc
  · have hl : Source.gaps isContent (ls.map unindented) = Source.gaps isContent ls := by
      rw [Source.gaps, runsBefore_map, runsBefore_congr fun line _ => isContent_unindented line]
      rfl
    have ht : Source.gaps isFilled (tidied.map unindented) = Source.gaps isFilled tidied := by
      rw [Source.gaps, runsBefore_map, runsBefore_congr hfilled]
      rfl
    rw [hl, ht, h.gaps]
  · intro hh
    rw [List.head?_map, Option.map_eq_some_iff] at hh
    obtain ⟨line, hl, hu⟩ := hh
    rw [hends line (List.mem_of_head? hl) hu] at hl
    exact h.first hl
  · intro hh
    rw [List.getLast?_map, Option.map_eq_some_iff] at hh
    obtain ⟨line, hl, hu⟩ := hh
    rw [hends line (List.mem_of_getLast? hl) hu] at hl
    exact h.last hl

/-- Texts that differ only in their indents differ only in their indents when they are tidied. -/
theorem map_unindented_tidyLines (h : bareLines s = bareLines t) :
    (tidyLines s).map unindented = (tidyLines t).map unindented := by
  have hs := (isTidied_tidyLines s).map_unindented
  have ht := (isTidied_tidyLines t).map_unindented
  rw [bareLines, bareLines] at h
  rw [h] at hs
  exact hs.unique ht

theorem exists_head_collapse {line : List Char} (h : line.isEmpty = false) (ls : List (List Char)) :
    ∃ x, (collapse (line :: ls)).head? = some x ∧ x.isEmpty = false := by
  rw [collapse_cons h]
  exact ⟨line, rfl, h⟩

theorem IsHeading.tidyLines_eq {front rest : List (List Char)} {line : List Char} (h : IsHeading front)
    (hs : Text.lines s = front ++ [] :: Text.lines t) (ht : Text.lines t = line :: rest) (hl : isContent line = true) :
    tidyLines s = front ++ [] :: tidyLines t := by
  have hline : (trimEnd line).isEmpty = false := by
    have hf := isFilled_trimEnd line
    rw [hl, isFilled] at hf
    simpa using hf
  have hc : collapse ((Text.lines s).map trimEnd) = (front ++ [[]]) ++ collapse ((Text.lines t).map trimEnd) := by
    rw [hs, ht, List.map_append, h.map_trimEnd, h.collapse_append, List.map_cons, List.map_cons, Text.trimEnd_nil,
      collapse_nil_cons hline, List.append_assoc]
    rfl
  have hhead : ∃ x, (collapse ((Text.lines t).map trimEnd)).head? = some x ∧ x.isEmpty = false := by
    rw [ht]
    exact exists_head_collapse hline _
  have hfront : ∃ x, (front ++ [[]]).head? = some x ∧ x.isEmpty = false := by
    obtain ⟨x, hx, he⟩ := h.exists_head
    exact ⟨x, by rw [List.head?_append, hx]; rfl, he⟩
  rw [tidyLines, hc, Text.stripBy_append hfront hhead, List.append_assoc, ← tidyLines]
  rfl

end Tidied

/-! Parts of pages that have the same lines at every indent, but for the spaces before them. -/

def IsSteady (render : String → String) : Prop :=
  ∃ ls, ∀ (k : Nat) (s : List Char),
    bareLines ((render (String.ofList (List.replicate k ' '))).toList ++ s) = ls ++ bareLines s

theorem bareLines_space (s : List Char) : bareLines (' ' :: s) = bareLines s := by
  obtain ⟨p, ps, hp⟩ := List.exists_cons_of_ne_nil (Text.cutAt_ne_nil '\n' s)
  have hc : Text.cutAt '\n' (' ' :: s) = (' ' :: p) :: ps := by
    rw [Text.cutAt, hp]
    rfl
  rw [bareLines, bareLines, Text.lines, Text.lines, hc, hp]
  rfl

theorem bareLines_spaces (k : Nat) (s : List Char) : bareLines (List.replicate k ' ' ++ s) = bareLines s := by
  induction k with
  | zero => rfl
  | succ k ih => rw [List.replicate_succ, List.cons_append, bareLines_space, ih]

theorem bareLines_append_lineFeed (a s : List Char) : bareLines (a ++ '\n' :: s) = bareLines a ++ bareLines s := by
  rw [bareLines, Text.lines, Text.cutAt_append, List.map_append]
  rfl

theorem isSteady_line (text : String) : IsSteady fun _ => text ++ "\n" := by
  refine ⟨bareLines text.toList, fun _ s => ?_⟩
  rw [String.toList_append, List.append_assoc]
  exact bareLines_append_lineFeed _ _

namespace IsSteady

variable {render other : String → String}

theorem indented (h : IsSteady render) : IsSteady fun indent => indent ++ render indent := by
  obtain ⟨ls, hls⟩ := h
  refine ⟨ls, fun k s => ?_⟩
  rw [String.toList_append, String.toList_ofList, List.append_assoc, bareLines_spaces, hls]

theorem append (h : IsSteady render) (ho : IsSteady other) : IsSteady fun indent => render indent ++ other indent := by
  obtain ⟨ls, hls⟩ := h
  obtain ⟨ms, hms⟩ := ho
  refine ⟨ls ++ ms, fun k s => ?_⟩
  rw [String.toList_append, List.append_assoc, hls, hms, List.append_assoc]

theorem join {α : Type} {render : α → String → String} (h : ∀ a, IsSteady (render a)) (as : List α) :
    IsSteady fun indent => String.join (as.map fun a => render a indent) := by
  induction as with
  | nil => exact ⟨[], fun _ _ => rfl⟩
  | cons a as ih =>
    have hj := (h a).append ih
    simp only [List.map_cons, String.join_cons]
    exact hj

theorem map_unindented_tidyLines (h : IsSteady render) (j k : Nat) :
    (tidyLines (render (String.ofList (List.replicate j ' '))).toList).map unindented =
      (tidyLines (render (String.ofList (List.replicate k ' '))).toList).map unindented := by
  obtain ⟨ls, hls⟩ := h
  have key : ∀ n, bareLines (render (String.ofList (List.replicate n ' '))).toList = ls ++ bareLines [] := by
    intro n
    rw [← hls n, List.append_nil]
  exact Source.map_unindented_tidyLines ((key j).trans (key k).symm)

end IsSteady

theorem isSteady_member (m : MemberLine) : IsSteady fun indent => m.render indent := by
  rw [funext m.render_eq]
  exact (isSteady_line _).indented

theorem isSteady_class (b : ClassBlock) : IsSteady fun indent => b.render indent := by
  rw [funext b.render_eq]
  exact (isSteady_line _).append ((isSteady_line _).append ((IsSteady.join isSteady_member _).append (isSteady_line _)))

theorem isSteady_assignment (parameter : String) (a : AssignmentLine) : IsSteady fun indent => a.render indent parameter := by
  have he : (fun indent => a.render indent parameter) =
      fun indent => indent ++ (indent ++ (assignmentLine parameter a ++ "\n")) :=
    funext fun indent => a.render_eq indent parameter
  rw [he]
  exact (isSteady_line _).indented.indented

theorem isSteady_mapper (m : MapperBlock) : IsSteady fun indent => m.render indent := by
  rw [funext m.render_eq]
  exact (isSteady_line _).indented.append ((isSteady_line _).indented.append
    ((IsSteady.join (isSteady_assignment _) _).append (isSteady_line _).indented))

end Source

end ModelForge
