import ModelForge.Proofs.Json.Grammar
import ModelForge.Proofs.Json.Scalars

/-! Reading a quoted text takes what stands for its characters, up to the next quote that is not escaped. What makes an
escape half of a pair stands behind it, so that the rest of the text goes along in all statements. -/

namespace ModelForge.Json

variable {halves : Bool} {c : Char} {cs e s rest : List Char} {n : Nat}

/-! Escapes. -/

theorem fourDigits?_eq_some_iff :
    fourDigits? s = some n ↔ ∃ digits rest, s = digits ++ rest ∧ rest ≠ [] ∧ IsUnit n digits := by
  unfold fourDigits?
  constructor
  · intro h
    split at h
    · next hl =>
      refine ⟨s.take 4, s.drop 4, (List.take_append_drop 4 s).symm, ?_, List.length_take_of_le (by omega), h⟩
      exact List.length_pos_iff.1 (by rw [List.length_drop]; omega)
    · cases h
  · rintro ⟨digits, rest, rfl, hr, hl, hn⟩
    have hpos := List.length_pos_iff.2 hr
    rw [if_pos (by rw [List.length_append]; omega), List.take_left' hl, hn]

theorem IsUnit.fourDigits? (h : IsUnit n s) (hr : rest ≠ []) : fourDigits? (s ++ rest) = some n :=
  fourDigits?_eq_some_iff.2 ⟨s, rest, rfl, hr, h⟩

theorem IsUnit.unique {m : Nat} {t rest' : List Char} (hn : IsUnit n s) (hm : IsUnit m t) (h : s ++ rest = t ++ rest') :
    n = m := by
  obtain ⟨rfl, -⟩ := List.append_inj h (hn.1.trans hm.1.symm)
  exact Option.some.inj (hn.2.symm.trans hm.2)

theorem escape_plain {x : Char} (h : plainEscape? x = some c) (s : List Char) : escape (x :: s) = .ok (c, 1) := by
  unfold escape
  split
  · next heq => cases heq
  · next heq =>
    cases heq
    cases h
  · next heq =>
    cases heq
    rw [h]

theorem IsInner.exists_unit (h : IsInner halves cs ('\\' :: 'u' :: s)) :
    ∃ n digits rest, s = digits ++ rest ∧ IsUnit n digits := by
  generalize hs : '\\' :: 'u' :: s = t at h
  cases h with
  | nil => cases hs
  | plain _ hb =>
    cases hs
    exact absurd rfl hb
  | escape he =>
    cases he with
    | plain hx =>
      cases hs
      cases hx
    | unit hn =>
      cases hs
      exact ⟨_, _, _, rfl, hn⟩
    | pair hh =>
      cases hs
      exact ⟨_, _, _, List.append_assoc .., hh⟩

theorem IsEscape.ne_nil (h : IsEscape halves c e s) : e ≠ [] := by cases h <;> exact List.cons_ne_nil _ _

theorem IsInner.exists_cons_cons (h : IsInner halves cs s) (hs : (s ++ '"' :: rest).take 2 = ['\\', 'u']) :
    ∃ t, s = '\\' :: 'u' :: t := by
  cases h with
  | nil => simp at hs
  | plain _ hb =>
    rw [List.cons_append, List.take_succ_cons] at hs
    exact absurd (List.cons.inj hs).1 hb
  | escape he =>
    obtain ⟨x, t, rfl⟩ := List.exists_cons_of_ne_nil he.ne_nil
    simp only [List.cons_append, List.take_succ_cons, List.take_zero, List.cons.injEq, and_true, true_and] at hs
    exact ⟨_, by rw [hs, List.cons_append]⟩

theorem escape_of_isEscape (h : IsEscape halves c e s) (hs : IsInner halves cs s) (rest : List Char) :
    escape (e ++ (s ++ '"' :: rest)) = .ok (c, e.length) := by
  have hrest : s ++ '"' :: rest ≠ [] := by simp
  cases h with
  | plain hx => exact escape_plain hx _
  | @unit n digits _ hn hp =>
    rw [List.cons_append, escape]
    have hdrop : (digits ++ (s ++ '"' :: rest)).drop 4 = s ++ '"' :: rest := List.drop_left' hn.1
    have hlength : ('u' :: digits).length = 5 := by rw [List.length_cons, hn.1]
    simp only [hn.fourDigits? hrest, hdrop, hlength]
    -- A high half is looked at together with the escape after it, which is there but no low half.
    split
    · next hhigh =>
      simp only [Bool.and_eq_true, decide_eq_true_eq, beq_iff_eq] at hhigh
      obtain ⟨t, rfl⟩ := hs.exists_cons_cons hhigh.2
      obtain ⟨low, digits', rest', rfl, hlow⟩ := hs.exists_unit
      have hfour : fourDigits? ((('\\' :: 'u' :: (digits' ++ rest')) ++ '"' :: rest).drop 2) = some low := by
        rw [List.cons_append, List.cons_append, List.drop_succ_cons, List.drop_succ_cons, List.drop_zero, List.append_assoc]
        exact hlow.fourDigits? (by simp)
      simp only [hfour]
      refine if_neg fun hl => hp ⟨hhigh.1.1, low, digits', rest', rfl, hlow, ?_⟩
      simpa [IsLow] using hl
    · rfl
  | @pair high low first second hh hl hhigh hlow =>
    have happ : 'u' :: (first ++ '\\' :: 'u' :: second) ++ (s ++ '"' :: rest) =
        'u' :: (first ++ ('\\' :: 'u' :: (second ++ (s ++ '"' :: rest)))) := by simp
    have hdrop : (first ++ ('\\' :: 'u' :: (second ++ (s ++ '"' :: rest)))).drop 4 =
        '\\' :: 'u' :: (second ++ (s ++ '"' :: rest)) := List.drop_left' hh.1
    have hlong : 6 < ('\\' :: 'u' :: (second ++ (s ++ '"' :: rest))).length := by
      have hpos := List.length_pos_iff.2 hrest
      rw [List.length_cons, List.length_cons, List.length_append, hl.1]
      omega
    have hlength : ('u' :: (first ++ '\\' :: 'u' :: second)).length = 11 := by simp [hh.1, hl.1]
    rw [happ, escape]
    simp only [hh.fourDigits? (List.cons_ne_nil _ _), hdrop, hlength]
    have hcond : (decide (0xD800 ≤ high) && decide (high < 0xDC00) &&
        decide (6 < ('\\' :: 'u' :: (second ++ (s ++ '"' :: rest))).length) &&
        ('\\' :: 'u' :: (second ++ (s ++ '"' :: rest))).take 2 == ['\\', 'u']) = true := by
      simp only [Bool.and_eq_true, decide_eq_true_eq]
      exact ⟨⟨hhigh, hlong⟩, rfl⟩
    rw [if_pos hcond]
    simp only [List.drop_succ_cons, List.drop_zero, hl.fourDigits? hrest]
    exact if_pos (by simpa [IsLow] using hlow)

theorem isEscape_of_escape {used : Nat} (h : escape s = .ok (c, used)) :
    ∃ e after, s = e ++ after ∧ e.length = used ∧ ∀ t rest, after = t ++ rest → rest ≠ [] → IsEscape true c e t := by
  unfold escape at h
  split at h
  · cases h
  · next digits =>
    split at h
    · cases h
    · next n hn =>
      obtain ⟨first, after, rfl, -, hunit⟩ := fourDigits?_eq_some_iff.1 hn
      have hdrop : (first ++ after).drop 4 = after := List.drop_left' hunit.1
      simp only [hdrop] at h
      split at h
      · next hhigh =>
        simp only [Bool.and_eq_true, decide_eq_true_eq, beq_iff_eq] at hhigh
        obtain ⟨⟨hhigh, -⟩, hu⟩ := hhigh
        obtain ⟨after, rfl⟩ : ∃ r, after = '\\' :: 'u' :: r :=
          ⟨after.drop 2, by rw [← List.take_append_drop 2 after, hu]; rfl⟩
        simp only [List.drop_succ_cons, List.drop_zero] at h
        split at h
        · cases h
        · next low hl =>
          obtain ⟨second, after, rfl, -, hsecond⟩ := fourDigits?_eq_some_iff.1 hl
          split at h
          · next hlow =>
            obtain ⟨rfl, rfl⟩ := Prod.mk.inj (Except.ok.inj h)
            refine ⟨'u' :: (first ++ '\\' :: 'u' :: second), after, by simp, by simp [hunit.1, hsecond.1], ?_⟩
            exact fun t rest _ _ => .pair hunit hsecond hhigh (by simpa [IsLow] using hlow) t
          · next hlow =>
            -- The second escape is complete, but is left for what follows.
            cases h
            refine ⟨'u' :: first, _, rfl, by rw [List.length_cons, hunit.1], fun t rest ht _ => .unit hunit ?_ (.inr rfl)⟩
            rintro ⟨-, m, digits, rest', rfl, hm, hlow'⟩
            simp only [List.cons_append, List.append_assoc, List.cons.injEq, true_and] at ht
            obtain rfl := hsecond.unique hm ht
            exact hlow (by simpa [IsLow] using hlow')
      · next hhigh =>
        cases h
        refine ⟨'u' :: first, after, rfl, by rw [List.length_cons, hunit.1], fun t rest ht hr => .unit hunit ?_ (.inr rfl)⟩
        rintro ⟨hh, low, digits, rest', rfl, hl, -⟩
        have hpos := List.length_pos_iff.2 hr
        refine hhigh ?_
        rw [ht]
        simp only [Bool.and_eq_true, decide_eq_true_eq]
        refine ⟨⟨hh, ?_⟩, rfl⟩
        simp only [List.length_append, List.length_cons, hl.1]
        omega
  · next x t _ =>
    split at h
    · next hx =>
      cases h
      exact ⟨[x], t, rfl, rfl, fun t _ _ _ => .plain hx t⟩
    · cases h

/-! Texts. -/

theorem readText_of_isInner (h : IsInner halves cs s) (opening done rest : List Char) :
    readText opening done (s ++ '"' :: rest) = .ok (String.ofList (done.reverse ++ cs), rest) := by
  induction h generalizing done with
  | nil => rw [List.nil_append, readText_quote, List.append_nil]
  | plain hq hb hc _ ih =>
    rw [List.cons_append, readText_plain opening done hq hb hc, ih]
    simp
  | @escape c e cs s he hs ih =>
    have hne : (e ++ (s ++ '"' :: rest)).isEmpty = false := by simp
    have hescape := escape_of_isEscape he hs rest
    rw [List.cons_append, List.append_assoc, readText.eq_def]
    simp only [hne, hescape, Bool.false_eq_true, if_false, List.drop_left, ih]
    simp

theorem isInner_of_readText {opening done : List Char} {t : String} (h : readText opening done s = .ok (t, rest)) :
    ∃ cs inner, s = inner ++ '"' :: rest ∧ t = String.ofList (done.reverse ++ cs) ∧ IsInner true cs inner := by
  fun_induction readText opening done s with
  | case1 => cases h
  | case2 done rest' =>
    cases h
    exact ⟨[], [], rfl, by rw [List.append_nil], .nil⟩
  | case3 => cases h
  | case4 => cases h
  | case5 done s _ c used hescape ih =>
    obtain ⟨cs, inner, hs, ht, hi⟩ := ih h
    obtain ⟨e, after, rfl, rfl, he⟩ := isEscape_of_escape hescape
    rw [List.drop_left] at hs
    refine ⟨c :: cs, '\\' :: (e ++ inner), by simp [hs], by simp [ht], .escape (he inner _ hs (List.cons_ne_nil _ _)) hi⟩
  | case6 => cases h
  | case7 done c s hq hb hc ih =>
    obtain ⟨cs, inner, hs, ht, hi⟩ := ih h
    exact ⟨c :: cs, c :: inner, by rw [hs, List.cons_append], by simp [ht], .plain hq hb hc hi⟩

end ModelForge.Json
