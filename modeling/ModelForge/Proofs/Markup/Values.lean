import ModelForge.Markup.Tag
import ModelForge.Proofs.Markup.References

/-! The value of an attribute: it is read up to its closing quote, and stands for the characters that its parts mean. -/

namespace ModelForge.Markup

variable {quote : Char} {parts : List ValuePart}

theorem valueText_cons (p : ValuePart) (ps : List ValuePart) : valueText (p :: ps) = p.text ++ valueText ps := rfl

theorem ValuePart.length_text_pos (p : ValuePart) : 0 < p.text.length := by cases p <;> exact Nat.succ_pos _

/-! Up to the closing quote. -/

theorem readValue_quote (quote : Char) (rest : List Char) : readValue quote (quote :: rest) = .ok ([], quote :: rest) := by
  rw [readValue, if_pos rfl]

theorem readValue_plain {c : Char} (hq : c ≠ quote) (hl : c ≠ '<') (ha : c ≠ '&') (h : isAllowed c = true)
    (s : List Char) : readValue quote (c :: s) = (readValue quote s).map fun r => (c :: r.1, r.2) := by
  simp [readValue, hq, hl, ha, h]

theorem readValue_inert (hq : quote = '"' ∨ quote = '\'') {t : List Char} (ht : ∀ c ∈ t, isInert c = true) {s v rest : List Char}
    (hs : readValue quote s = .ok (v, rest)) : readValue quote (t ++ s) = .ok (t ++ v, rest) := by
  induction t with
  | nil => exact hs
  | cons c t ih =>
    obtain ⟨hd, ha, hl, hr, hc⟩ := isInert_iff.1 (ht c (List.mem_cons_self ..))
    have hne : c ≠ quote := by rcases hq with rfl | rfl <;> assumption
    rw [List.cons_append, readValue_plain hne hl hr hc, ih fun x hx => ht x (List.mem_cons_of_mem _ hx)]
    rfl

theorem readValue_reference (hq : quote = '"' ∨ quote = '\'') {s after : List Char} {r : Reference}
    (h : readReference s = .ok (r, after)) :
    readValue quote ('&' :: s) = (readValue quote s).map fun r => ('&' :: r.1, r.2) := by
  have hne : '&' ≠ quote := by rcases hq with rfl | rfl <;> decide
  have ha : isAllowed '&' = true := rfl
  simp [readValue, hne, ha, h, Except.map]

theorem readValue_valueText (hq : quote = '"' ∨ quote = '\'') (h : ∀ p ∈ parts, p.IsWellFormed quote)
    (rest : List Char) : readValue quote (valueText parts ++ quote :: rest) = .ok (valueText parts, quote :: rest) := by
  induction parts with
  | nil => exact readValue_quote quote rest
  | cons p ps ih =>
    have hr := ih fun x hx => h x (List.mem_cons_of_mem _ hx)
    have hp := h p (List.mem_cons_self ..)
    rw [valueText_cons, List.append_assoc]
    rcases hp.cases with ⟨c, rfl⟩ | ⟨body, c, ht, -, hi, href⟩
    · obtain ⟨hne, hl, ha, hc⟩ := hp
      rw [ValuePart.text, List.singleton_append, readValue_plain hne hl ha hc, hr]
      rfl
    · -- The reference is looked at as a whole, and then read on over character by character.
      obtain ⟨r, hread, -⟩ := href (valueText ps ++ quote :: rest)
      rw [ht, List.cons_append, readValue_reference hq hread, readValue_inert hq hi hr]
      rfl

/-! The characters that are meant. -/

section Expand

variable {replace : List Char → Except ValueFault (List Char)} {fuel : Nat}

theorem expandValue_plain {c : Char} (hl : c ≠ '<') (ha : c ≠ '&') (hs : isSpace c = false ∨ c = ' ') (s : List Char) :
    expandValue replace false (fuel + 1) (c :: s) = (expandValue replace false fuel s).map (c :: ·) := by
  have hr : c ≠ '\r' := by
    rintro rfl
    exact absurd hs (by decide)
  have hc : (if isSpace c then ' ' else c) = c := by
    rcases hs with hs | rfl
    · rw [if_neg (by simp [hs])]
    · rfl
  simp [expandValue, hl, ha, hr, hc]

theorem expandValue_reference {s after : List Char} {r : Reference} {c : Char}
    (h : readReference s = .ok (r, after)) (hc : r.char? = some c) :
    expandValue replace false (fuel + 1) ('&' :: s) = (expandValue replace false fuel after).map (c :: ·) := by
  cases r with
  | entity name =>
    replace hc : predefined? name = some c := hc
    simp [expandValue, h, hc]
  | character d =>
    cases hc
    simp [expandValue, h]

theorem expandValue_isSpace (replace : List Char → Except ValueFault (List Char)) (fuel : Nat) {c : Char}
    (h : isSpace c = true) (s : List Char) :
    ∃ t, (t = s ∨ s = '\n' :: t) ∧
      expandValue replace false (fuel + 1) (c :: s) = (expandValue replace false fuel t).map (' ' :: ·) := by
  have hl : c ≠ '<' := by rintro rfl; cases h
  have ha : c ≠ '&' := by rintro rfl; cases h
  by_cases hr : (c = '\r' && !false && s.head? == some '\n') = true
  · simp only [Bool.and_eq_true, beq_iff_eq] at hr
    obtain ⟨t, rfl⟩ := List.head?_eq_some_iff.1 hr.2
    exact ⟨t, .inr rfl, by simp [expandValue, hl, ha, hr.1.1]⟩
  · exact ⟨s, .inl rfl, by rw [expandValue, if_neg hl, if_neg ha, if_neg hr, if_pos h]⟩

theorem exists_of_valueText_eq (h : ∀ p ∈ parts, p.IsWellFormed quote) {t : List Char}
    (ht : valueText parts = '\n' :: t) : ∃ ps, parts = .plain '\n' :: ps ∧ t = valueText ps := by
  cases parts with
  | nil => cases ht
  | cons p ps =>
    rcases (h p (List.mem_cons_self ..)).cases with ⟨c, rfl⟩ | ⟨body, c, hp, -⟩
    · cases ht
      exact ⟨ps, rfl, rfl⟩
    · rw [valueText_cons, hp] at ht
      cases ht

theorem exists_expandValue_cons (replace : List Char → Except ValueFault (List Char)) (fuel : Nat) {p : ValuePart}
    {ps : List ValuePart} (h : ∀ x ∈ p :: ps, x.IsWellFormed quote) :
    ∃ c qs, qs <:+ ps ∧ (¬ p.IsSpaced → qs = ps ∧ p.char? = some c) ∧
      expandValue replace false (fuel + 1) (valueText (p :: ps)) =
        (expandValue replace false fuel (valueText qs)).map (c :: ·) := by
  have hp := h p (List.mem_cons_self ..)
  rw [valueText_cons]
  rcases hp.cases with ⟨c, rfl⟩ | ⟨body, c, ht, hc, -, href⟩
  · obtain ⟨-, hl, ha, -⟩ := hp
    by_cases hs : isSpace c = true ∧ c ≠ ' '
    · obtain ⟨t, ht, he⟩ := expandValue_isSpace replace fuel hs.1 (valueText ps)
      have hn : (ValuePart.plain c).IsSpaced := ⟨c, rfl, hs⟩
      rcases ht with rfl | ht
      · exact ⟨' ', ps, List.suffix_rfl, fun hx => absurd hn hx, he⟩
      · obtain ⟨qs, rfl, rfl⟩ := exists_of_valueText_eq (fun x hx => h x (List.mem_cons_of_mem _ hx)) ht
        exact ⟨' ', qs, List.suffix_cons .., fun hx => absurd hn hx, he⟩
    · have hs : isSpace c = false ∨ c = ' ' := by
        rcases Bool.eq_false_or_eq_true (isSpace c) with ht | hf
        · exact .inr (Decidable.not_not.1 fun hne => hs ⟨ht, hne⟩)
        · exact .inl hf
      exact ⟨c, ps, List.suffix_rfl, fun _ => ⟨rfl, rfl⟩, expandValue_plain hl ha hs _⟩
  · obtain ⟨r, hread, hr⟩ := href (valueText ps)
    refine ⟨c, ps, List.suffix_rfl, fun _ => ⟨rfl, hc⟩, ?_⟩
    rw [ht, List.cons_append, expandValue_reference hread hr]

theorem length_valueText_le {ps qs : List ValuePart} (h : qs <:+ ps) :
    (valueText qs).length ≤ (valueText ps).length := by
  obtain ⟨l, rfl⟩ := h
  rw [valueText, valueText, List.flatMap_append, List.length_append]
  exact Nat.le_add_left ..

theorem exists_expandValue (replace : List Char → Except ValueFault (List Char))
    (h : ∀ p ∈ parts, p.IsWellFormed quote) (hf : (valueText parts).length < fuel) :
    ∃ v, expandValue replace false fuel (valueText parts) = .ok v ∧
      ((∀ p ∈ parts, ¬ p.IsSpaced) → parts.map ValuePart.char? = v.map some) := by
  -- On the fuel and not on the parts, since two of them may be read at once.
  induction fuel generalizing parts with
  | zero => cases hf
  | succ fuel ih =>
    cases parts with
    | nil => exact ⟨[], rfl, fun _ => rfl⟩
    | cons p ps =>
      obtain ⟨c, qs, hs, hc, he⟩ := exists_expandValue_cons replace fuel h
      have hq : ∀ x ∈ qs, x.IsWellFormed quote := fun x hx => h x (List.mem_cons_of_mem _ (hs.subset hx))
      have hlt : (valueText qs).length < fuel := by
        have := length_valueText_le hs
        have := p.length_text_pos
        rw [valueText_cons, List.length_append] at hf
        omega
      obtain ⟨v, hv, hx⟩ := ih hq hlt
      refine ⟨c :: v, by rw [he, hv]; rfl, fun hn => ?_⟩
      obtain ⟨rfl, hpc⟩ := hc (hn p (List.mem_cons_self ..))
      rw [List.map_cons, List.map_cons, hpc, hx fun x hx => hn x (List.mem_cons_of_mem _ hx)]

end Expand

theorem exists_attributeValue (h : ∀ p ∈ parts, p.IsWellFormed quote) (d : Declarations) :
    ∃ v, attributeValue d true (valueText parts) = .ok v ∧
      ((∀ p ∈ parts, ¬ p.IsSpaced) → parts.map ValuePart.char? = v.map some) := by
  obtain ⟨v, hv, he⟩ := exists_expandValue (replacement d (d.entities.length + 1) []) h (Nat.lt_succ_self _)
  exact ⟨v, by rw [attributeValue, hv]; rfl, he⟩

end ModelForge.Markup
