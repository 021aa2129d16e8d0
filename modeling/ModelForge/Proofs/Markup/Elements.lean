import ModelForge.Markup.Element
import ModelForge.Proofs.Markup.Tags

/-! From the tag as written to the element: without declarations, each attribute is taken over with its value, and no name
is in a namespace. -/

namespace ModelForge.Markup

namespace AttributeText

variable {a : AttributeText}

def content (a : AttributeText) : List Char := (attributeValue .none true (valueText a.value)).toOption.getD []

def pair (a : AttributeText) : Name × String := (⟨none, a.name⟩, String.ofList a.content)

theorem attributeValue_eq (h : a.IsWellFormed) : attributeValue .none true (valueText a.value) = .ok a.content := by
  obtain ⟨v, hv, -⟩ := exists_attributeValue h.value .none
  rw [content, hv]
  rfl

theorem content_eq (h : a.IsWellFormed) (hs : ∀ p ∈ a.value, ¬ p.IsSpaced) {v : List Char}
    (hv : a.value.map ValuePart.char? = v.map some) : a.content = v := by
  obtain ⟨w, hw, he⟩ := exists_attributeValue h.value .none
  have hwv : w.map some = v.map some := (he hs).symm.trans hv
  rw [content, hw]
  exact List.map_inj_right (fun _ _ => Option.some.inj) |>.1 hwv

end AttributeText

theorem boundPrefix?_eq_none {name : List Char} (h : isUnprefixed name = true) (hx : name ≠ "xmlns".toList) :
    boundPrefix? name = none := by
  have hp : ¬ "xmlns:".toList.isPrefixOf name = true := by
    intro hp
    obtain ⟨t, rfl⟩ := List.isPrefixOf_iff_prefix.1 hp
    exact colon_not_mem h (List.mem_append_left _ (by decide))
  rw [boundPrefix?, if_neg hx, if_neg hp]

theorem splitName_eq {name : List Char} (h : isUnprefixed name = true) : splitName name = ([], name) := by
  have hc : ¬ name.contains ':' = true := by simpa using colon_not_mem h
  rw [splitName, if_neg hc]

theorem Bindings.attributeName_eq {name : List Char} (h : isUnprefixed name = true) (b : Bindings) :
    b.attributeName name = .ok ⟨none, name⟩ := by
  rw [attributeName, splitName_eq h]
  rfl

theorem Bindings.elementName_initial {name : List Char} (h : isUnprefixed name = true) :
    initial.elementName name = .ok ⟨none, name⟩ := by
  rw [elementName, splitName_eq h]
  rfl

theorem gather_eq {as : List AttributeText} (h : ∀ a ∈ as, a.IsWellFormed) (hd : (as.map (·.name)).Nodup)
    (hx : ∀ a ∈ as, a.name ≠ "xmlns".toList) {ws : List WrittenAttribute}
    (hw : ws.map (fun w => (w.name, w.value)) = writtenPairs as) (tag : List Char) (g : Gathered)
    (hs : ∀ a ∈ as, a.name ∉ g.seen) :
    ∃ seen, gather .none [] tag g ws = .ok ⟨seen, g.values ++ as.map fun a => (a.name, a.content), g.bindings⟩ := by
  induction as generalizing ws g with
  | nil =>
    cases List.map_eq_nil_iff.1 hw
    exact ⟨g.seen, by rw [List.map_nil, List.append_nil]; rfl⟩
  | cons a as ih =>
    cases ws with
    | nil => cases hw
    | cons w ws =>
      obtain ⟨hp, hws⟩ := List.cons.inj hw
      obtain ⟨hn, hv⟩ := Prod.mk.inj hp
      have ha := h a (List.mem_cons_self ..)
      obtain ⟨hna, hnd⟩ := List.nodup_cons.1 hd
      have hc : g.seen.contains a.name = false := by simpa using hs a (List.mem_cons_self ..)
      have hadd : g.add a.name a.content =
          .ok ⟨a.name :: g.seen, g.values ++ [(a.name, a.content)], g.bindings⟩ := by
        rw [Gathered.add, boundPrefix?_eq_none ha.name (hx a (List.mem_cons_self ..))]
      have hseen : ∀ b ∈ as, b.name ∉ a.name :: g.seen := by
        intro b hb hm
        rcases List.mem_cons.1 hm with he | hm
        · exact hna (List.mem_map.2 ⟨b, hb, he⟩)
        · exact hs b (List.mem_cons_of_mem _ hb) hm
      obtain ⟨seen, hg⟩ := ih (fun b hb => h b (List.mem_cons_of_mem _ hb)) hnd
        (fun b hb => hx b (List.mem_cons_of_mem _ hb)) hws ⟨a.name :: g.seen, g.values ++ [(a.name, a.content)], g.bindings⟩
        hseen
      -- There are no rules, so that every value counts as plain character data.
      refine ⟨seen, ?_⟩
      simp only [gather, hn, hc, hv, List.find?_nil, Option.map_none, Option.getD_none, AttributeText.attributeValue_eq ha,
        hadd, hg, Bool.false_eq_true, if_false, List.map_cons, List.append_assoc, List.singleton_append]

def resolveStep (b : Bindings) (done : List (Name × String)) (p : List Char × List Char) :
    Except Flaw (List (Name × String)) := do
  let name ← b.attributeName p.1
  if done.any (·.1 == name) then throw .duplicateAttribute
  return done ++ [(name, String.ofList p.2)]

theorem resolve_eq_foldlM (b : Bindings) (values : List (List Char × List Char)) :
    resolve b values = values.foldlM (resolveStep b) [] := by
  cases values <;> rfl

theorem resolveStep_eq {p : List Char × List Char} (h : isUnprefixed p.1 = true) {done : List (Name × String)}
    (hd : ∀ q ∈ done, q.1 ≠ ⟨none, p.1⟩) (b : Bindings) :
    resolveStep b done p = .ok (done ++ [(⟨none, p.1⟩, String.ofList p.2)]) := by
  have ha : (done.any (·.1 == (⟨none, p.1⟩ : Name))) = false := List.any_eq_false.2 fun q hq => by simpa using hd q hq
  simp only [resolveStep, Bindings.attributeName_eq h, bind, Except.bind, ha]
  rfl

theorem foldlM_resolveStep {values : List (List Char × List Char)} (h : ∀ p ∈ values, isUnprefixed p.1 = true)
    (hd : (values.map Prod.fst).Nodup) {done : List (Name × String)}
    (hn : ∀ p ∈ values, ∀ q ∈ done, q.1 ≠ ⟨none, p.1⟩) (b : Bindings) :
    values.foldlM (resolveStep b) done = .ok (done ++ values.map fun p => (⟨none, p.1⟩, String.ofList p.2)) := by
  induction values generalizing done with
  | nil =>
    rw [List.map_nil, List.append_nil]
    rfl
  | cons p ps ih =>
    obtain ⟨hp, hps⟩ := List.nodup_cons.1 hd
    have hnext : ∀ r ∈ ps, ∀ q ∈ done ++ [(⟨none, p.1⟩, String.ofList p.2)], q.1 ≠ ⟨none, r.1⟩ := by
      intro r hr q hq
      rcases List.mem_append.1 hq with hq | hq
      · exact hn r (List.mem_cons_of_mem _ hr) q hq
      · rw [List.mem_singleton.1 hq]
        intro he
        exact hp (List.mem_map.2 ⟨r, hr, ((Name.mk.inj he).2).symm⟩)
    have hr := ih (fun q hq => h q (List.mem_cons_of_mem _ hq)) hps hnext
    rw [List.foldlM_cons, resolveStep_eq (h p (List.mem_cons_self ..)) (hn p (List.mem_cons_self ..))]
    rw [List.append_assoc, List.singleton_append] at hr
    exact hr

theorem resolve_eq {values : List (List Char × List Char)} (h : ∀ p ∈ values, isUnprefixed p.1 = true)
    (hd : (values.map Prod.fst).Nodup) (b : Bindings) :
    resolve b values = .ok (values.map fun p => (⟨none, p.1⟩, String.ofList p.2)) := by
  rw [resolve_eq_foldlM, foldlM_resolveStep h hd (fun _ _ _ hq => absurd hq List.not_mem_nil), List.nil_append]

theorem mapError_ok {α ε other : Type} (f : ε → other) (a : α) : (Except.ok a).mapError f = .ok a := rfl

def openedElement (name : List Char) (as : List AttributeText) : OpenElement :=
  ⟨name, ⟨none, name⟩, as.map AttributeText.pair, [], .initial⟩

theorem openElement_eq {name : List Char} {as : List AttributeText} (hn : isUnprefixed name = true)
    (h : ∀ a ∈ as, a.IsWellFormed) (hd : (as.map (·.name)).Nodup) (hx : ∀ a ∈ as, a.name ≠ "xmlns".toList)
    {ws : List WrittenAttribute} (hw : ws.map (fun w => (w.name, w.value)) = writtenPairs as) (isEmpty : Bool)
    (place : List Char) :
    openElement .none .initial ⟨name, ws, isEmpty⟩ place = .ok (openedElement name as) := by
  obtain ⟨seen, hg⟩ := gather_eq h hd hx hw place ⟨[], [], .initial⟩ fun _ _ => List.not_mem_nil
  have hr : resolve .initial (as.map fun a => (a.name, a.content)) = .ok (as.map AttributeText.pair) := by
    rw [resolve_eq ?_ ?_ .initial, List.map_map]
    · rfl
    · intro p hp
      obtain ⟨a, ha, rfl⟩ := List.mem_map.1 hp
      exact (h a ha).name
    · rw [List.map_map]
      exact hd
  have hrules : Declarations.none.rulesFor name = [] := rfl
  simp only [openElement, hrules, hg, bind, Except.bind, addDefaults, List.nil_append, hr, mapError_ok,
    Bindings.elementName_initial hn]
  rfl

end ModelForge.Markup
