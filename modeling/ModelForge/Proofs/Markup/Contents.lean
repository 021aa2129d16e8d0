import ModelForge.Markup.Content
import ModelForge.Proofs.Markup.Elements

/-! The content of an element: spaces and comments leave no trace, and an element without content becomes the last child of
the one that is open around it. -/

namespace ModelForge.Markup

section Steps

variable {expand : List Char → List OpenElement → Except Flaw (List OpenElement)} {stack : List OpenElement}

def Continues (expand : List Char → List OpenElement → Except Flaw (List OpenElement)) (stack : List OpenElement)
    (s : List Char) (next : List OpenElement) (rest : List Char) : Prop :=
  ∀ fuel, s.length < fuel → ∃ left, rest.length < left ∧
    readContent .none expand 0 fuel stack s = readContent .none expand 0 left next rest

theorem Continues.refl (stack : List OpenElement) (s : List Char) : Continues expand stack s stack s :=
  fun fuel hf => ⟨fuel, hf, rfl⟩

theorem Continues.trans {next last : List OpenElement} {s t u : List Char} (h : Continues expand stack s next t)
    (ho : Continues expand next t last u) : Continues expand stack s last u := by
  intro fuel hf
  obtain ⟨left, hl, he⟩ := h fuel hf
  obtain ⟨other, hr, hx⟩ := ho left hl
  exact ⟨other, hr, he.trans hx⟩

theorem continues_data {s rest : List Char} (hp : readPiece s = .ok (.data, rest)) (hr : s ≠ ['\r'])
    (hl : rest.length < s.length) : Continues expand stack s stack rest := by
  intro fuel hf
  obtain ⟨fuel, rfl⟩ := Nat.exists_eq_add_one.2 (Nat.zero_lt_of_lt hf)
  have hne : s ≠ [] := List.ne_nil_of_length_pos (Nat.zero_lt_of_lt hl)
  refine ⟨fuel, by omega, ?_⟩
  simp [readContent, hne, hr, hp]

theorem continues_start {s rest : List Char} {tag : StartTag} {o : OpenElement}
    (hp : readPiece ('<' :: s) = .ok (.start tag, rest)) (ho : openElement .none (bindingsOf stack) tag ('<' :: s) = .ok o)
    (ht : tag.isEmpty = false) (hl : rest.length ≤ s.length) : Continues expand stack ('<' :: s) (o :: stack) rest := by
  intro fuel hf
  obtain ⟨fuel, rfl⟩ := Nat.exists_eq_add_one.2 (Nat.zero_lt_of_lt hf)
  refine ⟨fuel, by rw [List.length_cons] at hf; omega, ?_⟩
  simp [readContent, hp, ho, ht]

theorem continues_empty {s rest : List Char} {tag : StartTag} {o : OpenElement} {next : List OpenElement}
    (hp : readPiece ('<' :: s) = .ok (.start tag, rest)) (ho : openElement .none (bindingsOf stack) tag ('<' :: s) = .ok o)
    (ht : tag.isEmpty = true) (hc : closeInnermost (o :: stack) = .inside next) (hl : rest.length ≤ s.length) :
    Continues expand stack ('<' :: s) next rest := by
  intro fuel hf
  obtain ⟨fuel, rfl⟩ := Nat.exists_eq_add_one.2 (Nat.zero_lt_of_lt hf)
  refine ⟨fuel, by rw [List.length_cons] at hf; omega, ?_⟩
  simp [readContent, hp, ho, ht, hc]

theorem continues_finish {s rest : List Char} {o : OpenElement} {next : List OpenElement}
    (hp : readPiece ('<' :: s) = .ok (.finish o.written, rest)) (hc : closeInnermost (o :: stack) = .inside next)
    (hl : rest.length ≤ s.length) : Continues expand (o :: stack) ('<' :: s) next rest := by
  intro fuel hf
  obtain ⟨fuel, rfl⟩ := Nat.exists_eq_add_one.2 (Nat.zero_lt_of_lt hf)
  refine ⟨fuel, by rw [List.length_cons] at hf; omega, ?_⟩
  simp [readContent, hp, hc]

/-! Spaces and comments. -/

theorem readPiece_of_isSpace {c : Char} (h : isSpace c = true) (s : List Char) : readPiece (c :: s) = .ok (.data, s) := by
  simp only [isSpace, Bool.or_eq_true, decide_eq_true_eq] at h
  rcases h with ((rfl | rfl) | rfl) | rfl <;> rfl

theorem continues_spaces {s rest : List Char} (hs : ∀ c ∈ s, isSpace c = true) (hr : rest ≠ []) :
    Continues expand stack (s ++ rest) stack rest := by
  induction s with
  | nil => exact .refl stack rest
  | cons c s ih =>
    refine (continues_data (readPiece_of_isSpace (hs c (List.mem_cons_self ..)) _) ?_ (Nat.lt_succ_self _)).trans
      (ih fun d hd => hs d (List.mem_cons_of_mem _ hd))
    intro he
    exact hr (List.append_eq_nil_iff.1 (List.cons.inj he).2).2

theorem skipComment_cons {c : Char} (hc : c ≠ '-') (ha : isAllowed c = true) (s : List Char) :
    skipComment (c :: s) = skipComment s := by
  rw [skipComment.eq_def]
  split
  · next heq => cases heq
  · next heq => exact absurd (List.cons.inj heq).1 hc
  · next heq => exact absurd (List.cons.inj heq).1 hc
  · next heq => exact absurd (List.cons.inj heq).1 hc
  · next heq =>
    cases heq
    rw [if_pos ha]

theorem skipComment_hyphen {c : Char} (hc : c ≠ '-') (s : List Char) :
    skipComment ('-' :: c :: s) = skipComment (c :: s) := by
  rw [skipComment.eq_def]
  split
  · next heq => cases heq
  · next heq => cases heq
  · next heq => exact absurd (List.cons.inj (List.cons.inj heq).2).1 hc
  · next heq => exact absurd (List.cons.inj (List.cons.inj heq).2).1 hc
  · next heq =>
    cases heq
    rw [if_pos (by decide)]

theorem skipComment_append {s : List Char} (h : isCommentText s = true) (rest : List Char) :
    skipComment (s ++ '-' :: '-' :: '>' :: rest) = .ok rest := by
  induction s using isCommentText.induct with
  | case1 => rfl
  | case2 => cases h
  | case3 c s ih =>
    simp only [isCommentText, Bool.and_eq_true, decide_eq_true_eq] at h
    obtain ⟨⟨hc, ha⟩, hs⟩ := h
    rw [List.cons_append, List.cons_append, skipComment_hyphen hc, skipComment_cons hc ha, ih hs]
  | case4 c s hend hmore ih =>
    -- A hyphen would have been met by one of the cases before.
    have hc : c ≠ '-' := by
      rintro rfl
      cases s with
      | nil => exact hend rfl rfl
      | cons d s => exact hmore d s rfl rfl
    rw [isCommentText.eq_4 _ _ hend hmore, Bool.and_eq_true] at h
    rw [List.cons_append, skipComment_cons hc h.1, ih h.2]

theorem continues_comment {s : List Char} (h : isCommentText s = true) (rest : List Char) :
    Continues expand stack ((Item.comment s).text ++ rest) stack rest := by
  have hp : readPiece ((Item.comment s).text ++ rest) = .ok (.data, rest) := by
    have hs := skipComment_append h rest
    simp [Item.text, readPiece, readComment, hs, Except.map]
  refine continues_data hp ?_ ?_
  · intro he
    cases (List.cons.inj he).1
  · simp only [Item.text, List.cons_append, List.length_cons, List.length_append]
    omega

/-! Elements without content. -/

theorem readPiece_start {name s : List Char} (h : isUnprefixed name = true) :
    readPiece ('<' :: (name ++ s)) = (readStartTag (name ++ s)).map fun r => (.start r.1, r.2) := by
  cases name with
  | nil => cases h
  | cons c t =>
    have hc := (isUnprefixed_iff.1 h).1
    have hb : c ≠ '!' := by rintro rfl; revert hc; decide
    have hq : c ≠ '?' := by rintro rfl; revert hc; decide
    have hs : c ≠ '/' := by rintro rfl; revert hc; decide
    simp [readPiece, hb, hq, hs]

theorem readPiece_end {name gap : List Char} (h : isUnprefixed name = true) (hg : ∀ c ∈ gap, isSpace c = true)
    (rest : List Char) : readPiece ('<' :: '/' :: (name ++ (gap ++ '>' :: rest))) = .ok (.finish name, rest) := by
  simp [readPiece, readEndTag_append h hg, Except.map]

def ElementText.element (e : ElementText) : Element := (openedElement e.name e.attributes).close

/-- The last child comes first. -/
def addChildren (o : OpenElement) (es : List Element) : OpenElement := { o with children := es.reverse ++ o.children }

theorem addChildren_append (o : OpenElement) (es other : List Element) :
    addChildren o (es ++ other) = addChildren (addChildren o es) other := by
  simp [addChildren]

theorem stopsName_endText (e : ElementText) (rest : List Char) : StopsName (e.endText ++ rest) := by
  unfold ElementText.endText
  split <;> exact .cons (by decide) (by decide) _

theorem continues_element {e : ElementText} (h : e.IsWellFormed) {o : OpenElement} (ho : o.bindings = .initial)
    (rest : List Char) :
    Continues expand (o :: stack) (e.text ++ rest) (addChildren o [e.element] :: stack) rest := by
  have hb : bindingsOf (o :: stack) = .initial := ho
  have hc : closeInnermost (openedElement e.name e.attributes :: o :: stack) =
      .inside (addChildren o [e.element] :: stack) := rfl
  have ht : e.text ++ rest =
      '<' :: (e.name ++ (e.attributes.flatMap AttributeText.text ++ (e.gap ++ (e.endText ++ rest)))) := by
    simp [ElementText.text]
  rw [ht]
  cases he : e.ending with
  | slash =>
    have hend : e.endText ++ rest = '/' :: '>' :: rest := by simp [ElementText.endText, he]
    have htag : readTagEnd? (e.endText ++ rest) = some (.ok (true, rest)) := by
      rw [hend]
      rfl
    obtain ⟨ws, hr, hw⟩ := exists_readStartTag h.name h.attributes h.gap (stopsName_endText e rest) htag
    refine continues_empty ?_ (hb ▸ openElement_eq h.name h.attributes h.distinct h.notBinding hw true _) rfl hc ?_
    · rw [readPiece_start h.name, hr]
      rfl
    · rw [hend]
      simp only [List.length_append, List.length_cons]
      omega
  | tag gap =>
    -- The element is open between its two tags, and the second closes it at once.
    have hend : e.endText ++ rest = '>' :: '<' :: '/' :: (e.name ++ (gap ++ '>' :: rest)) := by
      simp [ElementText.endText, he]
    have htag : readTagEnd? (e.endText ++ rest) = some (.ok (false, '<' :: '/' :: (e.name ++ (gap ++ '>' :: rest)))) := by
      rw [hend]
      rfl
    obtain ⟨ws, hr, hw⟩ := exists_readStartTag h.name h.attributes h.gap (stopsName_endText e rest) htag
    refine (continues_start ?_ (hb ▸ openElement_eq h.name h.attributes h.distinct h.notBinding hw false _) rfl ?_).trans
      (continues_finish (readPiece_end h.name (h.ending gap he) rest) hc ?_)
    · rw [readPiece_start h.name, hr]
      rfl
    · rw [hend]
      simp only [List.length_append, List.length_cons]
      omega
    · simp only [List.length_append, List.length_cons]
      omega

/-! Content as a whole. -/

def Item.elements : Item → List Element
  | spaces _ => []
  | comment _ => []
  | element e => [e.element]

theorem continues_item {i : Item} (h : i.IsWellFormed) {o : OpenElement} (ho : o.bindings = .initial) {rest : List Char}
    (hr : rest ≠ []) : Continues expand (o :: stack) (i.text ++ rest) (addChildren o i.elements :: stack) rest := by
  cases i with
  | spaces s => exact continues_spaces h hr
  | comment s => exact continues_comment h rest
  | element e => exact continues_element h ho rest

theorem continues_items {items : List Item} (h : ∀ i ∈ items, i.IsWellFormed) {o : OpenElement}
    (ho : o.bindings = .initial) {rest : List Char} (hr : rest ≠ []) :
    Continues expand (o :: stack) (items.flatMap Item.text ++ rest)
      (addChildren o (items.flatMap Item.elements) :: stack) rest := by
  induction items generalizing o with
  | nil => exact .refl _ _
  | cons i items ih =>
    have hne : items.flatMap Item.text ++ rest ≠ [] := fun he => hr (List.append_eq_nil_iff.1 he).2
    rw [List.flatMap_cons, List.flatMap_cons, List.append_assoc, addChildren_append]
    exact (continues_item (h i (List.mem_cons_self ..)) ho hne).trans
      (ih (fun j hj => h j (List.mem_cons_of_mem _ hj)) ho)

end Steps

end ModelForge.Markup
