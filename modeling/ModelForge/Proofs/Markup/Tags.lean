import ModelForge.Proofs.Markup.Values

/-! Tags are read as they were written, up to what follows them. -/

namespace ModelForge.Markup

/-! Spaces. -/

section Spaces

variable {s rest : List Char}

theorem isSpace_eq_false {c : Char} (h : isNameStart c = true) : isSpace c = false := by
  rw [← Bool.not_eq_true]
  intro hs
  simp only [isSpace, Bool.or_eq_true, decide_eq_true_eq] at hs
  rcases hs with ((rfl | rfl) | rfl) | rfl <;> revert h <;> decide

theorem StopsName.spaces_append (hs : ∀ c ∈ s, isSpace c = true) (hr : StopsName rest) : StopsName (s ++ rest) := by
  cases s with
  | nil => exact hr
  | cons c s => exact .of_isSpace (hs c (List.mem_cons_self ..)) _

theorem dropWhile_isSpace_append {c : Char} (hs : ∀ c ∈ s, isSpace c = true) (hc : isSpace c = false) (rest : List Char) :
    (s ++ c :: rest).dropWhile isSpace = c :: rest :=
  dropWhile_append_stop hs fun d hd => by cases hd; exact hc

theorem readTagEnd?_of_isSpace {c : Char} (h : isSpace c = true) (rest : List Char) : readTagEnd? (c :: rest) = none := by
  simp only [isSpace, Bool.or_eq_true, decide_eq_true_eq] at h
  rcases h with ((rfl | rfl) | rfl) | rfl <;> rfl

theorem readTagEnd?_of_isNameStart {c : Char} (h : isNameStart c = true) (rest : List Char) :
    readTagEnd? (c :: rest) = none := by
  have hg : c ≠ '>' := by rintro rfl; revert h; decide
  have hs : c ≠ '/' := by rintro rfl; revert h; decide
  unfold readTagEnd?
  split <;> simp_all

end Spaces

/-! Attributes. -/

namespace AttributeText

variable {a : AttributeText}

theorem exists_body_eq (h : a.IsWellFormed) : ∃ c t, a.body = c :: t ∧ isNameStart c = true := by
  cases hn : a.name with
  | nil =>
    have := h.name
    rw [hn] at this
    cases this
  | cons c s =>
    have hc := h.name
    rw [hn] at hc
    exact ⟨c, _, by rw [body, hn, List.cons_append], (isUnprefixed_iff.1 hc).1⟩

theorem exists_gap_eq (h : a.IsWellFormed) : ∃ c t, a.gap = c :: t ∧ isSpace c = true ∧ ∀ d ∈ t, isSpace d = true := by
  obtain ⟨c, t, hg⟩ := List.exists_cons_of_ne_nil h.gap_ne_nil
  refine ⟨c, t, hg, h.gap c ?_, fun d hd => h.gap d ?_⟩
  · rw [hg]
    exact List.mem_cons_self ..
  · rw [hg]
    exact List.mem_cons_of_mem _ hd

theorem length_text_pos (h : a.IsWellFormed) : 0 < a.text.length := by
  obtain ⟨c, t, hg, -⟩ := exists_gap_eq h
  rw [text, hg]
  exact Nat.succ_pos _

end AttributeText

theorem readAttribute_body {a : AttributeText} (h : a.IsWellFormed) (rest : List Char) :
    readAttribute (a.body ++ rest) =
      .ok (⟨a.name, valueText a.value, a.body ++ rest, a.quote :: rest⟩, rest) := by
  have hb : a.body ++ rest =
      a.name ++ (a.beforeSign ++ '=' :: (a.afterSign ++ a.quote :: (valueText a.value ++ a.quote :: rest))) := by
    simp [AttributeText.body]
  have hq : isSpace a.quote = false := by rcases h.quote with hq | hq <;> rw [hq] <;> decide
  have hc : (a.quote = '"' || a.quote = '\'') = true := by rcases h.quote with hq | hq <;> rw [hq] <;> decide
  have hst : StopsName ('=' :: (a.afterSign ++ a.quote :: (valueText a.value ++ a.quote :: rest))) :=
    .cons (by decide) (by decide) _
  have hn := readQualified_append h.name (StopsName.spaces_append h.beforeSign hst)
  have hv := readValue_valueText h.quote h.value rest
  rw [readAttribute, hb, hn]
  simp only [bind, Except.bind, dropWhile_isSpace_append h.beforeSign (c := '=') rfl,
    dropWhile_isSpace_append h.afterSign hq, hc, hv, if_true]
  rfl

/-- The attributes of a tag as they are read: their names and the texts of their values. -/
def writtenPairs (as : List AttributeText) : List (List Char × List Char) := as.map fun a => (a.name, valueText a.value)

section Attributes

variable {as : List AttributeText} {gap tail rest : List Char} {isEmpty : Bool}

theorem isSpace_of_readTagEnd? {r : Except Halt (Read Bool)} (h : readTagEnd? tail = some r) :
    ∀ c ∈ tail.head?, isSpace c = false := by
  intro c hc
  rw [← Bool.not_eq_true]
  intro hs
  obtain ⟨t, rfl⟩ := List.head?_eq_some_iff.1 hc
  rw [readTagEnd?_of_isSpace hs] at h
  cases h

theorem readAttributes_end {fuel : Nat} (hg : ∀ c ∈ gap, isSpace c = true)
    (he : readTagEnd? tail = some (.ok (isEmpty, rest))) :
    readAttributes (fuel + 1) (gap ++ tail) = .ok (([], isEmpty), rest) := by
  cases gap with
  | nil => simp [readAttributes, he, Except.map]
  | cons c gap =>
    have hd : (c :: gap ++ tail).dropWhile isSpace = tail := dropWhile_append_stop hg (isSpace_of_readTagEnd? he)
    have hc := hg c (List.mem_cons_self ..)
    rw [readAttributes, hd, List.cons_append, readTagEnd?_of_isSpace hc]
    simp [hc, he, Except.map]

theorem readAttributes_cons {a : AttributeText} (h : a.IsWellFormed) {fuel : Nat} {s : List Char}
    {ws : List WrittenAttribute} (hs : readAttributes fuel s = .ok ((ws, isEmpty), rest)) :
    readAttributes (fuel + 1) (a.text ++ s) =
      .ok ((⟨a.name, valueText a.value, a.body ++ s, a.quote :: s⟩ :: ws, isEmpty), rest) := by
  obtain ⟨c, g, hg, hc, hgs⟩ := AttributeText.exists_gap_eq h
  obtain ⟨b, t, hb, hbs⟩ := AttributeText.exists_body_eq h
  have hd : (a.text ++ s).dropWhile isSpace = a.body ++ s := by
    rw [AttributeText.text, List.append_assoc, hb]
    exact dropWhile_isSpace_append h.gap (isSpace_eq_false hbs) _
  have hh : (a.text ++ s).head? = some c := by rw [AttributeText.text, hg]; rfl
  have hn : readTagEnd? (a.text ++ s) = none := by
    obtain ⟨u, hu⟩ := List.head?_eq_some_iff.1 hh
    rw [hu, readTagEnd?_of_isSpace hc]
  have hm : readTagEnd? (a.body ++ s) = none := by rw [hb, List.cons_append, readTagEnd?_of_isNameStart hbs]
  rw [readAttributes, hn, hh, hd]
  simp only [hm, Option.map_some, Option.getD_some, hc, if_true, readAttribute_body h s, hs, bind, Except.bind]
  rfl

theorem exists_readAttributes (h : ∀ a ∈ as, a.IsWellFormed) (hg : ∀ c ∈ gap, isSpace c = true)
    (he : readTagEnd? tail = some (.ok (isEmpty, rest))) {fuel : Nat}
    (hf : (as.flatMap AttributeText.text).length < fuel) :
    ∃ ws, readAttributes fuel (as.flatMap AttributeText.text ++ (gap ++ tail)) = .ok ((ws, isEmpty), rest) ∧
      ws.map (fun w => (w.name, w.value)) = writtenPairs as := by
  induction as generalizing fuel with
  | nil =>
    obtain ⟨fuel, rfl⟩ := Nat.exists_eq_add_one.2 hf
    exact ⟨[], by rw [List.flatMap_nil, List.nil_append, readAttributes_end hg he], rfl⟩
  | cons a as ih =>
    have ha := h a (List.mem_cons_self ..)
    have hl := AttributeText.length_text_pos ha
    rw [List.flatMap_cons, List.length_append] at hf
    obtain ⟨fuel, rfl⟩ := Nat.exists_eq_add_one.2 (Nat.zero_lt_of_lt hf)
    have hlt : (as.flatMap AttributeText.text).length < fuel := by omega
    obtain ⟨ws, hr, hw⟩ := ih (fun x hx => h x (List.mem_cons_of_mem _ hx)) hlt
    have hc := readAttributes_cons ha hr
    rw [← List.append_assoc, ← List.flatMap_cons] at hc
    refine ⟨_, hc, ?_⟩
    rw [List.map_cons, hw]
    rfl

theorem stopsName_attributes (h : ∀ a ∈ as, a.IsWellFormed) (hg : ∀ c ∈ gap, isSpace c = true) (ht : StopsName tail) :
    StopsName (as.flatMap AttributeText.text ++ (gap ++ tail)) := by
  cases as with
  | nil =>
    rw [List.flatMap_nil, List.nil_append]
    exact .spaces_append hg ht
  | cons a as =>
    obtain ⟨c, g, hc, hs, -⟩ := AttributeText.exists_gap_eq (h a (List.mem_cons_self ..))
    rw [List.flatMap_cons, AttributeText.text, hc]
    exact .of_isSpace hs _

theorem exists_readStartTag {name : List Char} (hn : isUnprefixed name = true) (h : ∀ a ∈ as, a.IsWellFormed)
    (hg : ∀ c ∈ gap, isSpace c = true) (ht : StopsName tail) (he : readTagEnd? tail = some (.ok (isEmpty, rest))) :
    ∃ ws, readStartTag (name ++ (as.flatMap AttributeText.text ++ (gap ++ tail))) = .ok (⟨name, ws, isEmpty⟩, rest) ∧
      ws.map (fun w => (w.name, w.value)) = writtenPairs as := by
  have hf : (as.flatMap AttributeText.text).length < (as.flatMap AttributeText.text ++ (gap ++ tail)).length + 1 := by
    rw [List.length_append]
    omega
  obtain ⟨ws, hr, hw⟩ := exists_readAttributes h hg he hf
  refine ⟨ws, ?_, hw⟩
  rw [readStartTag, readQualified_append hn (stopsName_attributes h hg ht)]
  simp only [bind, Except.bind, hr]
  rfl

end Attributes

theorem readEndTag_append {name gap : List Char} (hn : isUnprefixed name = true) (hg : ∀ c ∈ gap, isSpace c = true)
    (rest : List Char) : readEndTag (name ++ (gap ++ '>' :: rest)) = .ok (name, rest) := by
  cases name with
  | nil => cases hn
  | cons c s =>
    obtain ⟨hc, hs⟩ := isUnprefixed_iff.1 hn
    have hp : ∀ d ∈ s, (isNameChar d || decide (d = ':')) = true := fun d hd => by rw [hs d hd, Bool.true_or]
    -- Colons count as parts of the name here, so the name stops only where they stop too.
    have hst : StopsName (gap ++ '>' :: rest) := .spaces_append hg (.cons (by decide) (by decide) rest)
    have hr : ∀ d ∈ (gap ++ '>' :: rest).head?, (isNameChar d || decide (d = ':')) = false := by
      intro d hd
      rw [(hst d hd).1, Bool.false_or, decide_eq_false (hst d hd).2]
    simp only [readEndTag, List.cons_append, hc, if_true, dropWhile_append_stop hp hr, takeWhile_append_stop hp hr,
      dropWhile_isSpace_append hg (c := '>') rfl]

end ModelForge.Markup
