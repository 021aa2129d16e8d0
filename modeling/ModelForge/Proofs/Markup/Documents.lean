import ModelForge.Markup.Document
import ModelForge.Proofs.Markup.Contents

/-! A document that is one element is read into that element. -/

namespace ModelForge.Markup

variable {tag : List Char}

/-! What comes before the root. -/

theorem ofText_start {c : Char} (h : isNameStart c = true) (s : List Char) :
    Characters.ofText (String.ofList ('<' :: c :: s)) = ⟨'<' :: c :: s, false⟩ := by
  -- A null as the second character would make the bytes halves of units.
  have hc : c ≠ '\x00' := by rintro rfl; revert h; decide
  unfold Characters.ofText
  rw [String.toList_ofList]
  split
  · next heq => cases heq
  · next heq => exact absurd (List.cons.inj (List.cons.inj heq).2).1 hc
  · rfl

theorem readDeclaration_start {c : Char} (h : isNameStart c = true) (s : List Char) :
    readDeclaration ('<' :: c :: s) = .ok (false, '<' :: c :: s) := by
  have hc : c ≠ '?' := by rintro rfl; revert h; decide
  simp [readDeclaration, hc]

theorem readToken_start {c : Char} (h : isNameStart c = true) (s : List Char) :
    readToken ('<' :: c :: s) = .ok (.rootStart, '<' :: c :: s) := by
  have hb : c ≠ '!' := by rintro rfl; revert h; decide
  have hq : c ≠ '?' := by rintro rfl; revert h; decide
  rw [readToken, if_pos (by rw [h, Bool.true_or])]
  · exact hb
  · exact hq

theorem prolog_start {c : Char} (h : isNameStart c = true) (s : List Char) (fuel : Nat) (d : Declarations) :
    prolog (fuel + 1) false d ('<' :: c :: s) = .ok (d, '<' :: c :: s) := by
  have hd : ('<' :: c :: s).dropWhile isSpace = '<' :: c :: s := rfl
  simp [prolog, nextLexeme, hd, readToken_start h, bind, Except.bind, pure, Except.pure]

/-! The root with its content. -/

variable {expand : List Char → List OpenElement → Except Flaw (List OpenElement)}

theorem readContent_finish {o : OpenElement} {s rest : List Char}
    (hp : readPiece ('<' :: s) = .ok (.finish o.written, rest)) (fuel : Nat) : readContent .none expand 0 (fuel + 1) [o] ('<' :: s) = .ok (.finished o.close, rest) := by
  simp [readContent, hp, closeInnermost]

def rootElement (tag : List Char) (a : AttributeText) (items : List Item) : Element :=
  .node ⟨none, tag⟩ [a.pair] (items.flatMap Item.elements)

theorem readContent_documentText (ht : isUnprefixed tag = true) {a : AttributeText} (ha : a.IsWellFormed)
    (hx : a.name ≠ "xmlns".toList) {items : List Item} (hi : ∀ i ∈ items, i.IsWellFormed) {fuel : Nat}
    (hf : (documentText tag a items).length < fuel) :
    readContent .none expand 0 fuel [] (documentText tag a items) = .ok (.finished (rootElement tag a items), []) := by
  have has : ∀ b ∈ [a], b.IsWellFormed := fun b hb => List.mem_singleton.1 hb ▸ ha
  have hxs : ∀ b ∈ [a], b.name ≠ "xmlns".toList := fun b hb => List.mem_singleton.1 hb ▸ hx
  have hend : ('<' :: '/' :: (tag ++ ['>'])) ≠ [] := List.cons_ne_nil _ _
  have hst : StopsName ('>' :: (items.flatMap Item.text ++ '<' :: '/' :: (tag ++ ['>']))) :=
    .cons (by decide) (by decide) _
  obtain ⟨ws, hr, hw⟩ := exists_readStartTag ht has (fun c hc => absurd hc List.not_mem_nil) hst rfl
  simp only [List.flatMap_cons, List.flatMap_nil, List.append_nil, List.nil_append] at hr
  have hp := readPiece_start ht (s := a.text ++ '>' :: (items.flatMap Item.text ++ '<' :: '/' :: (tag ++ ['>'])))
  rw [hr] at hp
  have hd : ([a].map (·.name)).Nodup := List.nodup_cons.2 ⟨List.not_mem_nil, List.nodup_nil⟩
  have ho := openElement_eq ht has hd hxs hw false (documentText tag a items)
  have hopen : Continues expand [] (documentText tag a items) [openedElement tag [a]]
      (items.flatMap Item.text ++ '<' :: '/' :: (tag ++ ['>'])) := by
    refine continues_start hp ho rfl ?_
    simp only [List.length_append, List.length_cons]
    omega
  obtain ⟨left, hl, he⟩ := (hopen.trans (continues_items hi rfl hend)) fuel hf
  obtain ⟨left, rfl⟩ := Nat.exists_eq_add_one.2 (Nat.zero_lt_of_lt hl)
  rw [he]
  have hclose : readPiece ('<' :: '/' :: (tag ++ ['>'])) = .ok (.finish tag, []) :=
    readPiece_end ht (fun c hc => absurd hc List.not_mem_nil) []
  rw [readContent_finish hclose]
  simp [addChildren, openedElement, OpenElement.close, rootElement]

theorem readDocument_documentText (ht : isUnprefixed tag = true) {a : AttributeText} (ha : a.IsWellFormed)
    (hx : a.name ≠ "xmlns".toList) {items : List Item} (hi : ∀ i ∈ items, i.IsWellFormed) :
    readDocument (documentText tag a items) = .ok (rootElement tag a items) := by
  have hc : readContent .none (expandEntity .none 1 []) 0 ((documentText tag a items).length + 1) []
      (documentText tag a items) = .ok (.finished (rootElement tag a items), []) :=
    readContent_documentText ht ha hx hi (Nat.lt_succ_self _)
  cases tag with
  | nil => cases ht
  | cons c s =>
    have hs := (isUnprefixed_iff.1 ht).1
    have hm : dropByteOrderMark (documentText (c :: s) a items) = documentText (c :: s) a items := rfl
    have hd : readDeclaration (documentText (c :: s) a items) = .ok (false, documentText (c :: s) a items) :=
      readDeclaration_start hs _
    have hp : prolog ((documentText (c :: s) a items).length + 1) false { Declarations.none with standalone := false }
        (documentText (c :: s) a items) = .ok (.none, documentText (c :: s) a items) := prolog_start hs _ _ _
    have hentities : Declarations.none.entities.length + 1 = 1 := rfl
    simp only [readDocument, hm, hd, hp, hentities, hc, bind, Except.bind]
    rfl

theorem read_documentText (ht : isUnprefixed tag = true) {a : AttributeText} (ha : a.IsWellFormed)
    (hx : a.name ≠ "xmlns".toList) {items : List Item} (hi : ∀ i ∈ items, i.IsWellFormed) :
    read (String.ofList (documentText tag a items)) = .ok (rootElement tag a items) := by
  have hd := readDocument_documentText ht ha hx hi
  cases tag with
  | nil => cases ht
  | cons c s =>
    have hc : Characters.ofText (String.ofList (documentText (c :: s) a items)) = ⟨documentText (c :: s) a items, false⟩ :=
      ofText_start (isUnprefixed_iff.1 ht).1 _
    rw [read, hc]
    simp only [hd]
    rfl

end ModelForge.Markup
