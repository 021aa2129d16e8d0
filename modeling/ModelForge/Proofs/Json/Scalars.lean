import ModelForge.Json.Reader
import ModelForge.Json.Writer

/-! Texts and whole numbers are read as they were written, whatever follows them. -/

namespace ModelForge.Json

/-! Texts. -/

theorem escapedChar_cases (c : Char) :
    (∃ e, plainEscape? e = some c ∧ escapedChar c = ['\\', e]) ∨
    (c.toNat < 0x20 ∧ escapedChar c = '\\' :: 'u' :: Text.hexDigits 4 c.toNat) ∨
    (c ≠ '"' ∧ c ≠ '\\' ∧ ¬ c.toNat < 0x20 ∧ escapedChar c = [c]) := by
  -- Seven characters have an escape of their own.
  by_cases hown : c ∈ ['"', '\\', '\n', '\r', '\t', '\x08', '\x0c']
  · left
    simp only [List.mem_cons, List.not_mem_nil, or_false] at hown
    rcases hown with rfl | rfl | rfl | rfl | rfl | rfl | rfl
    · exact ⟨'"', rfl, rfl⟩
    · exact ⟨'\\', rfl, rfl⟩
    · exact ⟨'n', rfl, rfl⟩
    · exact ⟨'r', rfl, rfl⟩
    · exact ⟨'t', rfl, rfl⟩
    · exact ⟨'b', rfl, rfl⟩
    · exact ⟨'f', rfl, rfl⟩
  · right
    simp only [List.mem_cons, List.not_mem_nil, or_false, not_or] at hown
    obtain ⟨hq, hb, hn, hr, ht, hbs, hff⟩ := hown
    by_cases hc : c.toNat < 0x20
    · exact .inl ⟨hc, by simp [escapedChar, hq, hb, hn, hr, ht, hbs, hff, hc]⟩
    · exact .inr ⟨hq, hb, hc, by simp [escapedChar, hq, hb, hn, hr, ht, hbs, hff, hc]⟩

theorem return_not_mem_escapedChar (c : Char) : '\r' ∉ escapedChar c := by
  intro hm
  rcases escapedChar_cases c with ⟨e, he, h⟩ | ⟨hc, h⟩ | ⟨-, -, hc, h⟩
  · rw [h] at hm
    have hr : e = '\r' := by simpa [eq_comm] using hm
    rw [hr] at he
    cases he
  · rw [h] at hm
    have hd : '\r' ∈ Text.hexDigits 4 c.toNat := by simpa using hm
    obtain ⟨d, hlt, he⟩ := Text.exists_of_mem_hexDigits hd
    exact (by decide : ∀ d < 16, '\r' ≠ Text.hexDigit d) d hlt he
  · rw [h, List.mem_singleton] at hm
    exact hc (hm ▸ by decide)

theorem return_not_mem_writeText (s : String) : '\r' ∉ writeText s := by
  simp [writeText, return_not_mem_escapedChar]

section

variable (opening done : List Char) {rest : List Char}

theorem readText_plainEscape {c x : Char} (h : plainEscape? c = some x) :
    readText opening done ('\\' :: c :: rest) = readText opening (x :: done) rest := by
  have he : escape (c :: rest) = .ok (x, 1) := by
    unfold escape
    split
    · next heq => cases heq
    · next heq =>
      cases heq
      cases h
    · next heq =>
      cases heq
      rw [h]
  rw [readText.eq_def]
  simp [he]

theorem readText_unicodeEscape {n : Nat} (hn : n < 0x20) (hr : rest ≠ []) :
    readText opening done ('\\' :: 'u' :: Text.hexDigits 4 n ++ rest) = readText opening (Char.ofNat n :: done) rest := by
  have hlength : 4 < (Text.hexDigits 4 n ++ rest).length := by
    have hpos := List.length_pos_iff.2 hr
    rw [List.length_append, Text.length_hexDigits]
    omega
  have hdigits : fourDigits? (Text.hexDigits 4 n ++ rest) = some n := by
    rw [fourDigits?, if_pos hlength, List.take_left' (Text.length_hexDigits 4 n), Text.hexNumber?_hexDigits,
      Nat.mod_eq_of_lt (Nat.lt_trans hn (by decide))]
  have hscalar : scalar n = Char.ofNat n := if_pos (.inl (by omega))
  have hhigh : ¬ 0xD800 ≤ n := by omega
  have he : escape ('u' :: Text.hexDigits 4 n ++ rest) = .ok (Char.ofNat n, 5) := by
    simp [escape, hdigits, hscalar, hhigh]
  rw [readText.eq_def]
  simp only [List.cons_append] at he ⊢
  simp [he, List.drop_left' (Text.length_hexDigits 4 n)]

theorem readText_plain {c : Char} (hq : c ≠ '"') (hb : c ≠ '\\') (hc : ¬ c.toNat < 0x20) :
    readText opening done (c :: rest) = readText opening (c :: done) rest := by
  rw [readText.eq_def]
  split
  · next heq => cases heq
  · next heq =>
    cases heq
    exact absurd rfl hq
  · next heq =>
    cases heq
    exact absurd rfl hb
  · next heq =>
    cases heq
    exact if_neg hc

theorem readText_escapedChar (c : Char) (hr : rest ≠ []) :
    readText opening done (escapedChar c ++ rest) = readText opening (c :: done) rest := by
  rcases escapedChar_cases c with ⟨e, he, h⟩ | ⟨hc, h⟩ | ⟨hq, hb, hc, h⟩
  · rw [h]
    exact readText_plainEscape opening done he
  · rw [h, readText_unicodeEscape opening done hc hr, Char.ofNat_toNat]
  · rw [h]
    exact readText_plain opening done hq hb hc

theorem readText_escaped (cs after : List Char) :
    readText opening done (cs.flatMap escapedChar ++ '"' :: after) =
      .ok (String.ofList (done.reverse ++ cs), after) := by
  induction cs generalizing done with
  | nil => rw [List.flatMap_nil, List.nil_append, readText_quote, List.append_nil]
  | cons c cs ih =>
    rw [List.flatMap_cons, List.append_assoc, readText_escapedChar opening done c (by simp), ih]
    simp

end

theorem readText_writeText (opening : List Char) (s : String) (after : List Char) :
    readText opening [] (s.toList.flatMap escapedChar ++ ['"'] ++ after) = .ok (s, after) := by
  rw [List.append_assoc, List.singleton_append, readText_escaped, List.reverse_nil, List.nil_append, String.ofList_toList]

/-! Whole numbers. -/

def StopsNumber (rest : List Char) : Prop := ∀ c ∈ rest.head?, isDigit c = false ∧ c ≠ '.' ∧ c ≠ 'e' ∧ c ≠ 'E'

theorem StopsNumber.nil : StopsNumber [] := nofun

theorem StopsNumber.cons {c : Char} (h : isDigit c = false ∧ c ≠ '.' ∧ c ≠ 'e' ∧ c ≠ 'E') (rest : List Char) :
    StopsNumber (c :: rest) := by
  intro d hd
  cases hd
  exact h

theorem isDigit_of_mem_toDigits {c : Char} {n : Nat} (h : c ∈ Nat.toDigits 10 n) : isDigit c = true :=
  Nat.isDigit_of_mem_toDigits (by decide) (by decide) h

theorem digitsValue_toDigits (n : Nat) : digitsValue (Nat.toDigits 10 n) = n := Nat.ofDigitChars_ten_toDigits

theorem exists_toDigits_eq_cons {n : Nat} (h : 0 < n) : ∃ c s, Nat.toDigits 10 n = c :: s ∧ c ≠ '0' := by
  induction n using Nat.base_induction 10 (by decide) with
  | single m hm =>
    refine ⟨m.digitChar, [], Nat.toDigits_of_lt_base hm, ?_⟩
    exact (by decide : ∀ m < 10, 0 < m → m.digitChar ≠ '0') m hm h
  | digit m k hk hm ih =>
    obtain ⟨c, s, hs, hc⟩ := ih hm
    refine ⟨c, s ++ Nat.toDigits 10 k, ?_, hc⟩
    rw [← Nat.toDigits_append_toDigits (by decide) hm hk, hs]
    rfl

section

variable {rest : List Char} (h : StopsNumber rest)
include h

theorem takeWhile_isDigit_of_stops : rest.takeWhile isDigit = [] := by
  cases rest with
  | nil => rfl
  | cons c s => exact List.takeWhile_cons_of_neg (by simp [(h c rfl).1])

theorem wholeDigits_append (n : Nat) : wholeDigits (Nat.toDigits 10 n ++ rest) = Nat.toDigits 10 n := by
  rcases Nat.eq_zero_or_pos n with rfl | hn
  · rfl
  · obtain ⟨c, s, hs, hc⟩ := exists_toDigits_eq_cons hn
    have hw : wholeDigits (Nat.toDigits 10 n ++ rest) = (Nat.toDigits 10 n ++ rest).takeWhile isDigit := by
      rw [hs, List.cons_append, wholeDigits]
      intro t ht
      cases ht
      exact hc rfl
    rw [hw, List.takeWhile_append_of_pos fun _ => isDigit_of_mem_toDigits, takeWhile_isDigit_of_stops h, List.append_nil]

theorem fractionDigits_of_stops : fractionDigits rest = [] := by
  unfold fractionDigits
  split
  · exact absurd rfl (h '.' rfl).2.1
  · rfl

theorem exponentPart_of_stops : exponentPart rest = (0, 0) := by
  cases rest with
  | nil => rfl
  | cons c s =>
    obtain ⟨-, -, he, hE⟩ := h c rfl
    simp [exponentPart, he, hE]

theorem readNumber_digits (negative : Bool) {n : Nat} (hn : (Nat.toDigits 10 n).length ≤ maxDigits) :
    readNumber ((if negative then ['-'] else []) ++ Nat.toDigits 10 n ++ rest) =
      .ok (.int (if negative then -n else n), rest) := by
  have hhead : (Nat.toDigits 10 n).head? ≠ some '-' := fun he =>
    absurd (isDigit_of_mem_toDigits (List.mem_of_head? he)) (by decide)
  have hne : (Nat.toDigits 10 n).isEmpty = false := List.isEmpty_eq_false_iff.2 Nat.toDigits_ne_nil
  cases negative <;>
    simp [readNumber, hhead, wholeDigits_append h, hne, fractionDigits_of_stops h, exponentPart_of_stops h,
      Nat.not_lt.2 hn, digitsValue_toDigits]

end

theorem toList_toString_int (n : Int) :
    (toString n).toList = (if n < 0 then ['-'] else []) ++ Nat.toDigits 10 n.natAbs := by
  cases n with
  | ofNat m => simp [Int.toString_eq_repr, Int.repr]
  | negSucc m => simp [Int.toString_eq_repr, Int.repr, Int.negSucc_lt_zero]

theorem readNumber_int {n : Int} {rest : List Char} (hn : (Nat.toDigits 10 n.natAbs).length ≤ maxDigits)
    (h : StopsNumber rest) : readNumber ((toString n).toList ++ rest) = .ok (.int n, rest) := by
  have hs : (toString n).toList = (if decide (n < 0) then ['-'] else []) ++ Nat.toDigits 10 n.natAbs := by
    simpa using toList_toString_int n
  have habs : (if decide (n < 0) then -(n.natAbs : Int) else n.natAbs) = n := by
    by_cases h0 : n < 0
    · rw [decide_eq_true h0, if_pos rfl]
      omega
    · rw [decide_eq_false h0, if_neg Bool.false_ne_true]
      omega
  rw [hs, readNumber_digits h _ hn, habs]

end ModelForge.Json
