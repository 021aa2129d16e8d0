import Mathlib.Data.List.Nodup
import ModelForge.Proofs.Markup.Outline

/-! No element that is read has two attributes of one name, and so the order of its attributes does not show. What keeps the
attributes of the open elements distinct is one mark, then the text of an entity, then a whole document. -/

namespace ModelForge.Markup

/-- Neither the element nor any element within it has two attributes of one name. -/
inductive Element.IsDistinct : Element → Prop where
  | node {name : Name} {attributes : List (Name × String)} {children : List Element}
      (ha : (attributes.map Prod.fst).Nodup) (hc : ∀ e ∈ children, e.IsDistinct) : IsDistinct (.node name attributes children)

structure OpenElement.IsDistinct (o : OpenElement) : Prop where
  attributes : (o.attributes.map Prod.fst).Nodup
  children : ∀ e ∈ o.children, e.IsDistinct

def Progress.IsDistinct : Progress → Prop
  | inside stack => ∀ o ∈ stack, o.IsDistinct
  | finished root => root.IsDistinct

/-- The texts of entities add no attribute twice. -/
def KeepsDistinct (expand : List Char → List OpenElement → Except Flaw (List OpenElement)) : Prop :=
  ∀ name stack next, (∀ o ∈ stack, o.IsDistinct) → expand name stack = .ok next → ∀ o ∈ next, o.IsDistinct

section Distinct

variable {d : Declarations} {expand : List Char → List OpenElement → Except Flaw (List OpenElement)}
  {stack next : List OpenElement} {o : OpenElement} {p : Progress}

theorem OpenElement.IsDistinct.close (h : o.IsDistinct) : o.close.IsDistinct :=
  .node h.attributes fun e he => h.children e (List.mem_reverse.1 he)

theorem isDistinct_closeInnermost (h : ∀ o ∈ stack, o.IsDistinct) : (closeInnermost stack).IsDistinct := by
  unfold closeInnermost
  split
  · exact h
  · exact (h _ (List.mem_cons_self ..)).close
  · next o outer rest =>
    obtain ⟨ho, hrest⟩ := List.forall_mem_cons.1 h
    obtain ⟨houter, hrest⟩ := List.forall_mem_cons.1 hrest
    exact List.forall_mem_cons.2 ⟨⟨houter.attributes, List.forall_mem_cons.2 ⟨ho.close, houter.children⟩⟩, hrest⟩

theorem nodup_resolveStep {b : Bindings} {done result : List (Name × String)} {v : List Char × List Char}
    (hd : (done.map Prod.fst).Nodup) (h : resolveStep b done v = .ok result) : (result.map Prod.fst).Nodup := by
  obtain ⟨name, -, h⟩ := exists_of_bind_eq_ok h
  dsimp only at h
  split at h
  · cases h
  · next hn =>
    cases h
    rw [List.map_append, List.map_singleton]
    have hname : name ∉ done.map Prod.fst := by
      intro hm
      obtain ⟨q, hq, hqn⟩ := List.mem_map.1 hm
      exact hn (List.any_eq_true.2 ⟨q, hq, by simpa using hqn⟩)
    apply List.Nodup.append hd (List.nodup_singleton name)
    rw [List.disjoint_singleton]
    exact hname

theorem isDistinct_openElement {outer : Bindings} {tag : StartTag} {place : List Char}
    (h : openElement d outer tag place = .ok o) : o.IsDistinct := by
  obtain ⟨g, -, h⟩ := exists_of_bind_eq_ok h
  obtain ⟨full, -, h⟩ := exists_of_bind_eq_ok h
  obtain ⟨attributes, ha, h⟩ := exists_of_bind_eq_ok h
  obtain ⟨name, -, h⟩ := exists_of_bind_eq_ok h
  cases h
  have hr := eq_ok_of_mapError_eq_ok ha
  rw [resolve_eq_foldlM] at hr
  exact ⟨of_foldlM_eq_ok (fun _ _ _ => nodup_resolveStep) hr List.nodup_nil, nofun⟩

theorem isDistinct_step {m : Mark} (he : KeepsDistinct expand) (hs : ∀ o ∈ stack, o.IsDistinct)
    (h : m.step d expand stack = some p) : p.IsDistinct := by
  cases m with
  | start name attributes isEmpty =>
    rw [Mark.step] at h
    split at h
    · cases h
    · next o ho =>
      have hopen : ∀ x ∈ o :: stack, x.IsDistinct := List.forall_mem_cons.2 ⟨isDistinct_openElement ho, hs⟩
      cases h
      split
      · exact isDistinct_closeInnermost hopen
      · exact hopen
  | finish name =>
    cases h
    exact isDistinct_closeInnermost hs
  | entity name =>
    rw [Mark.step] at h
    split at h
    · cases h
    · next next hn =>
      cases h
      exact he name stack next hs hn

theorem isDistinct_assemble {ms : List Mark} (he : KeepsDistinct expand) (hs : ∀ o ∈ stack, o.IsDistinct)
    (h : assemble d expand stack ms = some p) : p.IsDistinct := by
  induction ms generalizing stack with
  | nil =>
    cases h
    exact hs
  | cons m ms ih =>
    rw [assemble] at h
    split at h
    · cases h
    · next root hm =>
      cases h
      exact isDistinct_step he hs hm
    · next next hm => exact ih (isDistinct_step he hs hm) h

/-- The induction is on how many entities can still be within each other. -/
theorem keepsDistinct_expandEntity (depth : Nat) (isOpen : List (List Char)) :
    KeepsDistinct (expandEntity d depth isOpen) := by
  intro name stack next hs h
  induction depth generalizing isOpen name stack next with
  | zero => cases h
  | succ depth ih =>
    rw [expandEntity] at h
    split at h
    · cases h
    · split at h
      · cases h
      · split at h
        · cases h
        · cases h
        · split at h
          · cases h
          · next hr =>
            cases h
            exact isDistinct_assemble (ih _) hs (assemble_marks hr)
          · cases h

theorem isDistinct_of_read {text : String} {root : Element} (h : read text = .ok root) : root.IsDistinct := by
  obtain ⟨d, ms, -, ha⟩ := exists_outline h
  exact isDistinct_assemble (keepsDistinct_expandEntity _ _) (fun _ ho => absurd ho List.not_mem_nil) ha

end Distinct

section Lookup

variable {e other : Element}

theorem Element.IsDistinct.nodup (h : e.IsDistinct) : (e.attributes.map Prod.fst).Nodup := by
  cases h with
  | node ha _ => exact ha

theorem Element.IsDistinct.of_mem_children (h : e.IsDistinct) (hm : other ∈ e.children) : other.IsDistinct := by
  cases h with
  | node _ hc => exact hc other hm

theorem lookup_eq_some_iff {l : List (Name × String)} (h : (l.map Prod.fst).Nodup) {name : Name} {v : String} :
    l.lookup name = some v ↔ (name, v) ∈ l := by
  induction l with
  | nil => simp
  | cons p l ih =>
    obtain ⟨hp, hl⟩ := List.nodup_cons.1 h
    obtain ⟨k, w⟩ := p
    by_cases hk : name = k
    · subst hk
      have hn : (name, v) ∉ l := fun hm => hp (List.mem_map.2 ⟨_, hm, rfl⟩)
      simp [hn, eq_comm]
    · have hb : (name == k) = false := by simpa using hk
      simp [List.lookup_cons, hb, ih hl, hk]

theorem attribute?_of_perm (h : e.IsDistinct) (hp : e.attributes.Perm other.attributes) (base : String) :
    other.attribute? base = e.attribute? base := by
  have hother : (other.attributes.map Prod.fst).Nodup := (hp.map Prod.fst).nodup_iff.1 h.nodup
  apply Option.ext
  intro v
  rw [Element.attribute?, Element.attribute?, lookup_eq_some_iff hother, lookup_eq_some_iff h.nodup, hp.mem_iff]

end Lookup

end ModelForge.Markup
