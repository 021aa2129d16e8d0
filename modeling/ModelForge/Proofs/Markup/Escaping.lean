import Mathlib.Tactic.SplitIfs
import ModelForge.Proofs.Markup.Documents

/-! Any text as the value of an attribute: what reading would change or take for markup is written by references. -/

namespace ModelForge.Markup

/-- `byNumber` picks further characters that are written by their numbers. -/
def escapeChar (byNumber : Char → Bool) (c : Char) : ValuePart :=
  if c = '&' then .named "amp".toList
  else if c = '<' then .named "lt".toList
  else if c = '>' then .named "gt".toList
  else if c = '"' then .named "quot".toList
  else if c = '\t' || c = '\n' || c = '\r' || byNumber c then .decimal (Nat.toDigits 10 c.toNat)
  else .plain c

def escaped (byNumber : Char → Bool) (v : String) : List ValuePart := v.toList.map (escapeChar byNumber)

def attributeText (byNumber : Char → Bool) (name v : String) : AttributeText :=
  ⟨[' '], name.toList, [], [], '"', escaped byNumber v⟩

/-! Characters by their numbers. -/

theorem isDecimal_of_isDigit {c : Char} (h : c.isDigit = true) : isDecimal c = true := h

theorem foldl_digitValue {digits : List Char} (h : ∀ d ∈ digits, isDecimal d = true) (n : Nat) :
    digits.foldl (fun n d => 10 * n + digitValue d) n = Nat.ofDigitChars 10 digits n := by
  induction digits generalizing n with
  | nil => rw [Nat.ofDigitChars_nil, List.foldl_nil]
  | cons d ds ih =>
    have hd : digitValue d = d.toNat - '0'.toNat := if_pos (h d (List.mem_cons_self ..))
    rw [List.foldl_cons, Nat.ofDigitChars_cons, hd, ih fun x hx => h x (List.mem_cons_of_mem _ hx)]

theorem characterOf_toNat {c : Char} (h : isAllowed c = true) : characterOf c.toNat = some c := by
  have hv : c.toNat.isValidChar := c.valid
  simp [characterOf, Char.ofNat_toNat, h, hv]

structure ValuePart.Means (p : ValuePart) (c : Char) : Prop where
  wellFormed : p.IsWellFormed '"'
  notSpaced : ¬ p.IsSpaced
  char : p.char? = some c

theorem ValuePart.Means.of_named {name : List Char} {c : Char} (h : predefined? name = some c) :
    (ValuePart.named name).Means c := by
  refine ⟨?_, ?_, h⟩
  · change predefined? name ≠ none
    rw [h]
    exact Option.some_ne_none c
  · rintro ⟨d, hd, -⟩
    cases hd

theorem ValuePart.Means.of_decimal {c : Char} (h : isAllowed c = true) :
    (ValuePart.decimal (Nat.toDigits 10 c.toNat)).Means c := by
  have hd : ∀ d ∈ Nat.toDigits 10 c.toNat, isDecimal d = true := fun d hm =>
    isDecimal_of_isDigit (Nat.isDigit_of_mem_toDigits (by decide) (by decide) hm)
  have hc : (ValuePart.decimal (Nat.toDigits 10 c.toNat)).char? = some c := by
    rw [ValuePart.char?, foldl_digitValue hd, Nat.ofDigitChars_ten_toDigits, characterOf_toNat h]
  refine ⟨⟨Nat.toDigits_ne_nil, hd, ?_⟩, ?_, hc⟩
  · rw [hc]
    exact Option.some_ne_none c
  · rintro ⟨d, hd, -⟩
    cases hd

theorem ValuePart.Means.of_plain {c : Char} (hq : c ≠ '"') (hl : c ≠ '<') (ha : c ≠ '&') (h : isAllowed c = true)
    (hs : isSpace c = true → c = ' ') : (ValuePart.plain c).Means c := by
  refine ⟨⟨hq, hl, ha, h⟩, ?_, rfl⟩
  rintro ⟨d, hd, hsp, hne⟩
  cases hd
  exact hne (hs hsp)

theorem means_escapeChar (byNumber : Char → Bool) {c : Char} (h : isAllowed c = true) :
    (escapeChar byNumber c).Means c := by
  unfold escapeChar
  split_ifs with ha hl hg hq hn
  · exact ha ▸ .of_named rfl
  · exact hl ▸ .of_named rfl
  · exact hg ▸ .of_named rfl
  · exact hq ▸ .of_named rfl
  · exact .of_decimal h
  · refine .of_plain hq hl ha h fun hs => ?_
    simp only [Bool.or_eq_true, decide_eq_true_eq, not_or] at hn
    simp only [isSpace, Bool.or_eq_true, decide_eq_true_eq] at hs
    obtain ⟨⟨⟨ht, hf⟩, hr⟩, -⟩ := hn
    rcases hs with ((hs | hs) | hs) | hs
    · exact hs
    · exact absurd hs ht
    · exact absurd hs hf
    · exact absurd hs hr

/-! Attributes. -/

variable {byNumber : Char → Bool} {name v : String}

theorem means_of_mem_escaped (h : ∀ c ∈ v.toList, isAllowed c = true) {p : ValuePart} (hp : p ∈ escaped byNumber v) :
    ∃ c, p.Means c := by
  obtain ⟨c, hc, rfl⟩ := List.mem_map.1 hp
  exact ⟨c, means_escapeChar byNumber (h c hc)⟩

theorem isWellFormed_attributeText (hn : isUnprefixed name.toList = true) (h : ∀ c ∈ v.toList, isAllowed c = true) :
    (attributeText byNumber name v).IsWellFormed := by
  refine ⟨List.cons_ne_nil _ _, ?_, hn, ?_, ?_, .inl rfl, fun p hp => ?_⟩
  · intro c hc
    rw [List.mem_singleton.1 hc]
    rfl
  · exact fun c hc => absurd hc List.not_mem_nil
  · exact fun c hc => absurd hc List.not_mem_nil
  · obtain ⟨c, hm⟩ := means_of_mem_escaped h hp
    exact hm.wellFormed

theorem pair_attributeText (hn : isUnprefixed name.toList = true) (h : ∀ c ∈ v.toList, isAllowed c = true) :
    (attributeText byNumber name v).pair = (.plain name, v) := by
  have hs : ∀ p ∈ (attributeText byNumber name v).value, ¬ p.IsSpaced := by
    intro p hp
    obtain ⟨c, hm⟩ := means_of_mem_escaped h hp
    exact hm.notSpaced
  have hv : (attributeText byNumber name v).value.map ValuePart.char? = v.toList.map some := by
    rw [attributeText, escaped, List.map_map]
    exact List.map_congr_left fun c hc => (means_escapeChar byNumber (h c hc)).char
  rw [AttributeText.pair, AttributeText.content_eq (isWellFormed_attributeText hn h) hs hv, String.ofList_toList]
  rfl

end ModelForge.Markup
