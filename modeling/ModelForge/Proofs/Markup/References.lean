import ModelForge.Markup.Entity
import ModelForge.Proofs.Markup.Written

/-! Names and references are read as they were written, whatever follows them. -/

namespace ModelForge.Markup

section Stop

variable {p : Char → Bool} {s rest : List Char}

theorem dropWhile_append_stop (hs : ∀ c ∈ s, p c = true) (hr : ∀ c ∈ rest.head?, p c = false) :
    (s ++ rest).dropWhile p = rest := by
  rw [List.dropWhile_append_of_pos hs]
  cases rest with
  | nil => rfl
  | cons c rest => exact List.dropWhile_cons_of_neg (by simpa using hr c rfl)

theorem takeWhile_append_stop (hs : ∀ c ∈ s, p c = true) (hr : ∀ c ∈ rest.head?, p c = false) :
    (s ++ rest).takeWhile p = s := by
  rw [List.takeWhile_append_of_pos hs]
  cases rest with
  | nil => simp
  | cons c rest => rw [List.takeWhile_cons_of_neg (by simpa using hr c rfl), List.append_nil]

end Stop

/-! Names. -/

def StopsName (rest : List Char) : Prop := ∀ c ∈ rest.head?, isNameChar c = false ∧ c ≠ ':'

theorem StopsName.cons {c : Char} (h : isNameChar c = false) (hc : c ≠ ':') (rest : List Char) : StopsName (c :: rest) := by
  intro d hd
  cases hd
  exact ⟨h, hc⟩

theorem StopsName.of_isSpace {c : Char} (h : isSpace c = true) (rest : List Char) : StopsName (c :: rest) := by
  simp only [isSpace, Bool.or_eq_true, decide_eq_true_eq] at h
  rcases h with ((rfl | rfl) | rfl) | rfl <;> exact .cons (by decide) (by decide) rest

theorem isUnprefixed_iff {c : Char} {s : List Char} :
    isUnprefixed (c :: s) = true ↔ isNameStart c = true ∧ ∀ d ∈ s, isNameChar d = true := by
  simp [isUnprefixed]

theorem isNameChar_of_mem {name : List Char} (h : isUnprefixed name = true) {c : Char} (hc : c ∈ name) :
    isNameChar c = true := by
  cases name with
  | nil => cases h
  | cons d s =>
    obtain ⟨hd, hs⟩ := isUnprefixed_iff.1 h
    rcases List.mem_cons.1 hc with rfl | hc
    · rw [isNameChar, hd, Bool.true_or]
    · exact hs c hc

theorem colon_not_mem {name : List Char} (h : isUnprefixed name = true) : ':' ∉ name := fun hm =>
  absurd (isNameChar_of_mem h hm) (by decide)

theorem readName_append {name rest : List Char} (h : isUnprefixed name = true)
    (hr : ∀ c ∈ rest.head?, isNameChar c = false) : readName (name ++ rest) = .ok (name, rest) := by
  cases name with
  | nil => cases h
  | cons c s =>
    obtain ⟨hc, hs⟩ := isUnprefixed_iff.1 h
    simp only [List.cons_append, readName, hc, if_true, takeWhile_append_stop hs hr, dropWhile_append_stop hs hr]

theorem readQualified_append {name rest : List Char} (h : isUnprefixed name = true) (hr : StopsName rest) :
    readQualified (name ++ rest) = .ok (name, rest) := by
  have hn := readName_append h fun c hc => (hr c hc).1
  rw [readQualified, hn]
  cases rest with
  | nil => rfl
  | cons c rest =>
    have hc : c ≠ ':' := (hr c rfl).2
    simp only [bind, Except.bind]
    split
    · next heq => exact absurd (List.cons.inj heq).1 hc
    · rfl

/-! References. -/

/-- A character that ends no value and starts no reference. -/
def isInert (c : Char) : Bool := c ≠ '"' && c ≠ '\'' && c ≠ '<' && c ≠ '&' && isAllowed c

theorem isInert_iff {c : Char} :
    isInert c = true ↔ c ≠ '"' ∧ c ≠ '\'' ∧ c ≠ '<' ∧ c ≠ '&' ∧ isAllowed c = true := by
  simp [isInert, and_assoc]

theorem isHexadecimal_of_isDecimal {c : Char} (h : isDecimal c = true) : isHexadecimal c = true := by
  simp [isHexadecimal, h]

theorem isInert_of_isHexadecimal {c : Char} (h : isHexadecimal c = true) : isInert c = true := by
  refine isInert_iff.2 ⟨?_, ?_, ?_, ?_, ?_⟩
  · rintro rfl; revert h; decide
  · rintro rfl; revert h; decide
  · rintro rfl; revert h; decide
  · rintro rfl; revert h; decide
  · have hn : 48 ≤ c.toNat ∧ c.toNat ≤ 102 := by
      simp only [isHexadecimal, isDecimal, Bool.or_eq_true, Bool.and_eq_true, decide_eq_true_eq, Char.le_def,
        UInt32.le_iff_toNat_le] at h
      change ((48 ≤ c.toNat ∧ c.toNat ≤ 57) ∨ (97 ≤ c.toNat ∧ c.toNat ≤ 102)) ∨ (65 ≤ c.toNat ∧ c.toNat ≤ 70) at h
      omega
    simp only [isAllowed, Bool.and_eq_true, Bool.or_eq_true, decide_eq_true_eq, bne_iff_ne]
    omega

theorem readNumber_append {base : Nat} {isDigit : Char → Bool} {digits : List Char} (hne : digits ≠ [])
    (hd : ∀ d ∈ digits, isDigit d = true) (hs : isDigit ';' = false) (rest : List Char) :
    readNumber base isDigit (digits ++ ';' :: rest) =
      .ok (.character (characterOf (digits.foldl (fun n d => base * n + digitValue d) 0)), rest) := by
  have hr : ∀ c ∈ (';' :: rest).head?, isDigit c = false := by
    intro c hc
    cases hc
    exact hs
  simp [readNumber, dropWhile_append_stop hd hr, takeWhile_append_stop hd hr, hne]

theorem readReference_decimal {digits : List Char} (hne : digits ≠ []) (hd : ∀ d ∈ digits, isDecimal d = true)
    (rest : List Char) :
    readReference ('#' :: (digits ++ ';' :: rest)) = .ok (.character ((ValuePart.decimal digits).char?), rest) := by
  rw [ValuePart.char?, ← readNumber_append hne hd rfl]
  cases digits with
  | nil => cases hne rfl
  | cons d ds =>
    -- An x after the number sign would start a hexadecimal number.
    have hx : d ≠ 'x' := by
      rintro rfl
      exact absurd (hd 'x' (List.mem_cons_self ..)) (by decide)
    unfold readReference
    split
    · next heq =>
      simp only [List.cons_append, List.cons.injEq] at heq
      exact absurd heq.2.1 hx
    · next heq =>
      cases heq
      rfl
    · next hn => exact absurd rfl (hn _)

theorem readReference_hexadecimal {digits : List Char} (hne : digits ≠ []) (hd : ∀ d ∈ digits, isHexadecimal d = true)
    (rest : List Char) :
    readReference ('#' :: 'x' :: (digits ++ ';' :: rest)) =
      .ok (.character ((ValuePart.hexadecimal digits).char?), rest) := by
  rw [ValuePart.char?, ← readNumber_append hne hd rfl]
  rfl

theorem readReference_named {name : List Char} (h : isUnprefixed name = true) (rest : List Char) :
    readReference (name ++ ';' :: rest) = .ok (.entity name, rest) := by
  have hn : readName (name ++ ';' :: rest) = .ok (name, ';' :: rest) :=
    readName_append h fun c hc => by cases hc; rfl
  have hs : ∀ t, name ++ ';' :: rest ≠ '#' :: t := by
    intro t heq
    cases name with
    | nil => cases h
    | cons c s =>
      rw [(List.cons.inj heq).1] at h
      exact absurd (isUnprefixed_iff.1 h).1 (by decide)
  unfold readReference
  split
  · next heq => exact absurd heq (hs _)
  · next heq => exact absurd heq (hs _)
  · rw [hn]
    rfl

theorem mem_of_predefined? {name : List Char} (h : predefined? name ≠ none) :
    name ∈ ["lt".toList, "gt".toList, "amp".toList, "quot".toList, "apos".toList] := by
  obtain ⟨c, hc⟩ := Option.ne_none_iff_exists'.1 h
  obtain ⟨l₁, l₂, hl, -⟩ := List.lookup_eq_some_iff.1 hc
  have hm : (name, c) ∈ [("lt".toList, '<'), ("gt".toList, '>'), ("amp".toList, '&'), ("quot".toList, '"'),
      ("apos".toList, '\'')] := hl ▸ List.mem_append_right l₁ (List.mem_cons_self ..)
  exact List.mem_map_of_mem (f := Prod.fst) hm

def Reference.char? : Reference → Option Char
  | entity name => predefined? name
  | character c => c

theorem ValuePart.IsWellFormed.cases {quote : Char} {p : ValuePart} (h : p.IsWellFormed quote) :
    (∃ c, p = .plain c) ∨ ∃ body c, p.text = '&' :: body ∧ p.char? = some c ∧ (∀ x ∈ body, isInert x = true) ∧
      ∀ rest, ∃ r, readReference (body ++ rest) = .ok (r, rest) ∧ r.char? = some c := by
  cases p with
  | plain c => exact .inl ⟨c, rfl⟩
  | decimal digits =>
    obtain ⟨hne, hd, hc⟩ := h
    obtain ⟨c, hc⟩ := Option.ne_none_iff_exists'.1 hc
    refine .inr ⟨_, c, rfl, hc, fun x hx => ?_, fun rest => ⟨.character _, ?_, hc⟩⟩
    · simp only [List.mem_cons, List.mem_append, List.not_mem_nil, or_false] at hx
      rcases hx with rfl | hx | rfl
      · decide
      · exact isInert_of_isHexadecimal (isHexadecimal_of_isDecimal (hd x hx))
      · decide
    · rw [List.cons_append, List.append_assoc]
      exact readReference_decimal hne hd rest
  | hexadecimal digits =>
    obtain ⟨hne, hd, hc⟩ := h
    obtain ⟨c, hc⟩ := Option.ne_none_iff_exists'.1 hc
    refine .inr ⟨_, c, rfl, hc, fun x hx => ?_, fun rest => ⟨.character _, ?_, hc⟩⟩
    · simp only [List.mem_cons, List.mem_append, List.not_mem_nil, or_false] at hx
      rcases hx with rfl | rfl | hx | rfl
      · decide
      · decide
      · exact isInert_of_isHexadecimal (hd x hx)
      · decide
    · rw [List.cons_append, List.cons_append, List.append_assoc]
      exact readReference_hexadecimal hne hd rest
  | named name =>
    obtain ⟨c, hc⟩ := Option.ne_none_iff_exists'.1 h
    -- The names are five, and each of them can be looked at.
    have hm := mem_of_predefined? h
    have hu : isUnprefixed name = true ∧ (name ++ [';']).all isInert = true := by
      simp only [List.mem_cons, List.not_mem_nil, or_false] at hm
      rcases hm with rfl | rfl | rfl | rfl | rfl <;> decide +kernel
    refine .inr ⟨_, c, rfl, hc, List.all_eq_true.1 hu.2, fun rest => ⟨.entity name, ?_, hc⟩⟩
    rw [List.append_assoc]
    exact readReference_named hu.1 rest

end ModelForge.Markup
