import ModelForge.Markup.Document
import ModelForge.Proofs.Markup.Elements
import ModelForge.Proofs.Succeeding

/-! What a document says about its elements: its tags and its references to entities, in their order. The root is put
together from these alone, whatever comments, instructions, sections and text stand between them. -/

namespace ModelForge.Markup

inductive Mark where
  | start (name : List Char) (attributes : List (List Char × List Char)) (isEmpty : Bool)
  | finish (name : List Char)
  | entity (name : List Char)

def StartTag.mark (tag : StartTag) : Mark := .start tag.name (tag.attributes.map fun a => (a.name, a.value)) tag.isEmpty

/-- Nothing but tags and entities that are declared can open or close an element. -/
def Piece.mark? : Piece → Option Mark
  | data => none
  | start tag => some tag.mark
  | finish name => some (.finish name)
  | reference (.character _) => none
  | reference (.entity name) => if (predefined? name).isSome then none else some (.entity name)

/-- The marks of a text up to its end or to the first flaw. -/
def marks : Nat → List Char → List Mark
  | 0, _ => []
  | fuel + 1, s =>
    match readPiece s with
    | .error _ => []
    | .ok (piece, rest) => piece.mark?.toList ++ marks fuel rest

section Assembling

variable {d : Declarations} {expand : List Char → List OpenElement → Except Flaw (List OpenElement)} {level : Nat}
  {stack : List OpenElement} {p : Progress}

def Mark.step (d : Declarations) (expand : List Char → List OpenElement → Except Flaw (List OpenElement))
    (stack : List OpenElement) : Mark → Option Progress
  | start name attributes isEmpty =>
    match openElement d (bindingsOf stack) ⟨name, attributes.map fun a => ⟨a.1, a.2, [], []⟩, isEmpty⟩ [] with
    | .error _ => none
    | .ok o => some (if isEmpty then closeInnermost (o :: stack) else .inside (o :: stack))
  | finish _ => some (closeInnermost stack)
  | entity name =>
    match expand name stack with
    | .error _ => none
    | .ok next => some (.inside next)

/-- Takes the marks one by one until the root is closed. -/
def assemble (d : Declarations) (expand : List Char → List OpenElement → Except Flaw (List OpenElement)) :
    List OpenElement → List Mark → Option Progress
  | stack, [] => some (.inside stack)
  | stack, m :: ms =>
    match m.step d expand stack with
    | none => none
    | some (.finished root) => some (.finished root)
    | some (.inside next) => assemble d expand next ms

theorem gather_unplaced {rules : List AttributeRule} {place : List Char} {g result : Gathered} {as : List WrittenAttribute}
    (h : gather d rules place g as = .ok result) (other : List Char) :
    gather d rules other g ((as.map fun a => (a.name, a.value)).map fun a => ⟨a.1, a.2, [], []⟩) = .ok result := by
  induction as generalizing g with
  | nil => exact h
  | cons a as ih =>
    rw [gather] at h
    rw [List.map_cons, List.map_cons, gather]
    split at h
    · cases h
    · next hs =>
      rw [if_neg hs]
      dsimp only at h ⊢
      split at h
      · cases h
      · cases h
      · split at h
        · cases h
        · exact ih h

theorem openElement_unplaced {outer : Bindings} {tag : StartTag} {place : List Char} {o : OpenElement}
    (h : openElement d outer tag place = .ok o) :
    openElement d outer ⟨tag.name, (tag.attributes.map fun a => (a.name, a.value)).map fun a => ⟨a.1, a.2, [], []⟩,
      tag.isEmpty⟩ [] = .ok o := by
  obtain ⟨g, hg, h⟩ := exists_of_bind_eq_ok h
  obtain ⟨full, hf, h⟩ := exists_of_bind_eq_ok h
  obtain ⟨attributes, ha, h⟩ := exists_of_bind_eq_ok h
  obtain ⟨name, hn, h⟩ := exists_of_bind_eq_ok h
  rw [openElement, gather_unplaced hg]
  simp only [bind, Except.bind, eq_ok_of_mapError_eq_ok hf, eq_ok_of_mapError_eq_ok ha, eq_ok_of_mapError_eq_ok hn, mapError_ok]
  exact h

/-- After a mark either the root is closed, or the rest is read within the elements that are then open. -/
def Follows (d : Declarations) (expand : List Char → List OpenElement → Except Flaw (List OpenElement)) (level fuel : Nat)
    (after : List Char) (result : Read Progress) (q : Progress) : Prop :=
  (∃ root, q = .finished root ∧ result.1 = .finished root) ∨
    ∃ next, q = .inside next ∧ readContent d expand level fuel next after = .ok result

theorem follows_closeInnermost {fuel : Nat} {after : List Char} {result : Read Progress}
    (h : (match closeInnermost stack with
      | .finished root => Except.ok (Progress.finished root, after)
      | .inside next => readContent d expand level fuel next after) = .ok result) :
    Follows d expand level fuel after result (closeInnermost stack) := by
  split at h
  · next root hc =>
    cases h
    exact .inl ⟨root, hc, rfl⟩
  · next next hc => exact .inr ⟨next, hc, h⟩

theorem readContent_cases {fuel : Nat} {s : List Char} {result : Read Progress}
    (h : readContent d expand level (fuel + 1) stack s = .ok result) :
    (s = [] ∧ result.1 = .inside stack) ∨ ∃ piece after, readPiece s = .ok (piece, after) ∧
      ((piece.mark? = none ∧ readContent d expand level fuel stack after = .ok result) ∨
        ∃ m q, piece.mark? = some m ∧ m.step d expand stack = some q ∧ Follows d expand level fuel after result q) := by
  rw [readContent] at h
  split at h
  · next hs =>
    split at h
    · cases h
    · split at h
      · cases h
        exact .inl ⟨List.isEmpty_iff.1 hs, rfl⟩
      · cases h
  · right
    split at h
    · cases h
    · split at h
      · cases h
      · next after hp => exact ⟨_, after, hp, .inl ⟨rfl, h⟩⟩
      · next tag after hp =>
        split at h
        · cases h
        · next o ho =>
          have hstep : tag.mark.step d expand stack =
              some (if tag.isEmpty then closeInnermost (o :: stack) else .inside (o :: stack)) := by
            rw [StartTag.mark, Mark.step, openElement_unplaced ho]
          refine ⟨_, after, hp, .inr ⟨tag.mark, _, rfl, hstep, ?_⟩⟩
          split at h
          · next ht =>
            rw [if_pos ht]
            exact follows_closeInnermost h
          · next ht =>
            rw [if_neg ht]
            exact .inr ⟨_, rfl, h⟩
      · next name after hp =>
        split at h
        · cases h
        · split at h
          · cases h
          · exact ⟨_, after, hp, .inr ⟨.finish name, _, rfl, rfl, follows_closeInnermost h⟩⟩
      · cases h
      · next c after hp => exact ⟨_, after, hp, .inl ⟨rfl, h⟩⟩
      · next name after hp =>
        split at h
        · next hn => exact ⟨_, after, hp, .inl ⟨if_pos hn, h⟩⟩
        · next hn =>
          split at h
          · cases h
          · next next he =>
            have hstep : (Mark.entity name).step d expand stack = some (.inside next) := by rw [Mark.step, he]
            exact ⟨_, after, hp, .inr ⟨.entity name, _, if_neg hn, hstep, .inr ⟨next, rfl, h⟩⟩⟩

theorem marks_of_readPiece {s after : List Char} {piece : Piece} (h : readPiece s = .ok (piece, after)) (fuel : Nat) :
    marks (fuel + 1) s = piece.mark?.toList ++ marks fuel after := by
  rw [marks, h]

theorem assemble_marks {fuel : Nat} {s : List Char} {result : Read Progress}
    (h : readContent d expand level fuel stack s = .ok result) :
    assemble d expand stack (marks fuel s) = some result.1 := by
  induction fuel generalizing stack s with
  | zero => cases h
  | succ fuel ih =>
    obtain ⟨rfl, hr⟩ | ⟨piece, after, hp, hm⟩ := readContent_cases h
    · rw [hr]
      rfl
    · rw [marks_of_readPiece hp]
      obtain ⟨hn, h⟩ | ⟨m, q, hm, hstep, hf⟩ := hm
      · rw [hn]
        exact ih h
      · rw [hm, Option.toList_some, List.singleton_append, assemble, hstep]
        obtain ⟨root, rfl, hr⟩ | ⟨next, rfl, h⟩ := hf
        · rw [hr]
        · exact ih h

end Assembling

theorem readDocument_of_read {text : String} {root : Element} (h : read text = .ok root) :
    readDocument (Characters.ofText text).list = .ok root := by
  have he := eq_ok_of_mapError_eq_ok h
  unfold Characters.endOf at he
  split at he
  · next hr =>
    split at he
    · cases he
    · cases he
      exact hr
  · cases he

/-- The declarations before the root element, and the marks from there on. -/
def outline (text : String) : Except Fault (Declarations × List Mark) := do
  let (standalone, rest) ← readDeclaration (dropByteOrderMark (Characters.ofText text).list)
  let (d, rest) ← prolog (rest.length + 1) false { Declarations.none with standalone } rest
  return (d, marks (rest.length + 1) rest)

theorem exists_outline {text : String} {root : Element} (h : read text = .ok root) :
    ∃ d ms, outline text = .ok (d, ms) ∧
      assemble d (expandEntity d (d.entities.length + 1) []) [] ms = some (.finished root) := by
  obtain ⟨⟨standalone, body⟩, hs, hd⟩ := exists_of_bind_eq_ok (readDocument_of_read h)
  obtain ⟨⟨d, content⟩, hp, hd⟩ := exists_of_bind_eq_ok hd
  obtain ⟨⟨p, rest⟩, hc, hd⟩ := exists_of_bind_eq_ok hd
  have ho : outline text = .ok (d, marks (content.length + 1) content) := by
    rw [outline, hs]
    simp only [bind, Except.bind, hp]
    rfl
  refine ⟨d, _, ho, ?_⟩
  rw [assemble_marks hc]
  cases p with
  | finished other =>
    obtain ⟨⟨⟩, -, hd⟩ := exists_of_bind_eq_ok hd
    cases hd
    rfl
  | inside stack => cases hd

/-- Documents of one outline have one root. -/
theorem read_congr {text other : String} {root root' : Element} (h : read text = .ok root) (h' : read other = .ok root')
    (ho : outline other = outline text) : root' = root := by
  obtain ⟨d, ms, hd, ha⟩ := exists_outline h
  obtain ⟨d', ms', hd', ha'⟩ := exists_outline h'
  rw [ho, hd] at hd'
  cases hd'
  rw [ha] at ha'
  cases ha'
  rfl

/-- What looks like a tag within a comment or a section is none. -/
example : outline "<!--<a>--><a>x<?y z?><b/><!--</a>--></a>" = outline "<a><b/><![CDATA[<b/>]]>&lt;</a>" := by cbv

end ModelForge.Markup
