import Mathlib.Data.List.Induction
import Mathlib.Data.List.TakeWhile
import ModelForge.Proofs.Json.Grammar
import ModelForge.Proofs.Json.Scalars

/-! Reading a number takes a text of a number, and takes all of it where no number goes on. -/

namespace ModelForge.Json

open Magnitude (normalized)

variable {s rest whole fraction exponent : List Char}

def StopsDigits (rest : List Char) : Prop := ∀ c ∈ rest.head?, isDigit c = false

theorem StopsNumber.stopsDigits (h : StopsNumber rest) : StopsDigits rest := fun c hc => (h c hc).1

theorem stopsDigits_cons {c : Char} (h : isDigit c = false) (s : List Char) : StopsDigits (c :: s) := by
  intro d hd
  cases hd
  exact h

theorem AllDigits.takeWhile_append (h : AllDigits s) (hr : StopsDigits rest) : (s ++ rest).takeWhile isDigit = s := by
  rw [List.takeWhile_append_of_pos h]
  cases rest with
  | nil => exact List.append_nil s
  | cons c r => rw [List.takeWhile_cons_of_neg (by simp [hr c rfl]), List.append_nil]

theorem allDigits_takeWhile (s : List Char) : AllDigits (s.takeWhile isDigit) := fun _ => List.mem_takeWhile_imp

theorem AllDigits.append {t : List Char} (hs : AllDigits s) (ht : AllDigits t) : AllDigits (s ++ t) :=
  List.forall_mem_append.2 ⟨hs, ht⟩

theorem takeWhile_append_drop (s : List Char) : s.takeWhile isDigit ++ s.drop (s.takeWhile isDigit).length = s :=
  List.prefix_iff_eq_append.1 (List.takeWhile_prefix isDigit)

/-! The digits before the point. -/

theorem IsWhole.allDigits (h : IsWhole whole) : AllDigits whole := by
  cases h with
  | zero => exact fun c hc => List.mem_singleton.1 hc ▸ rfl
  | digits hc _ hs => exact List.forall_mem_cons.2 ⟨hc, hs⟩

theorem IsWhole.ne_nil (h : IsWhole whole) : whole ≠ [] := by cases h <;> exact List.cons_ne_nil _ _

theorem IsWhole.wholeDigits_append (h : IsWhole whole) (hr : StopsDigits rest) : wholeDigits (whole ++ rest) = whole := by
  cases h with
  | zero => rfl
  | @digits c s hc h0 hs =>
    have hw : wholeDigits (c :: s ++ rest) = (c :: s ++ rest).takeWhile isDigit := by
      rw [List.cons_append, wholeDigits]
      intro t ht
      cases ht
      exact h0 rfl
    have hd : AllDigits (c :: s) := List.forall_mem_cons.2 ⟨hc, hs⟩
    rw [hw, hd.takeWhile_append hr]

theorem wholeDigits_cases (s : List Char) :
    wholeDigits s = [] ∨ IsWhole (wholeDigits s) ∧ wholeDigits s ++ s.drop (wholeDigits s).length = s := by
  unfold wholeDigits
  split
  · exact .inr ⟨.zero, rfl⟩
  · next h =>
    cases s with
    | nil => exact .inl rfl
    | cons c t =>
      by_cases hc : isDigit c = true
      · refine .inr ⟨?_, ?_⟩
        · rw [List.takeWhile_cons_of_pos hc]
          refine .digits hc ?_ (allDigits_takeWhile t)
          rintro rfl
          exact h t rfl
        · exact takeWhile_append_drop (c :: t)
      · exact .inl (List.takeWhile_cons_of_neg hc)

/-! The digits after the point. -/

theorem fractionDigits_append (h : AllDigits fraction) (hr : StopsDigits rest)
    (hp : fraction = [] → rest.head? ≠ some '.') :
    fractionDigits (fractionText fraction ++ rest) = fraction := by
  unfold fractionText
  split
  · next hf =>
    obtain rfl := List.isEmpty_iff.1 hf
    unfold fractionDigits
    split
    · next h => exact absurd (congrArg List.head? h) (hp rfl)
    · rfl
  · exact h.takeWhile_append hr

theorem fractionDigits_spec (s : List Char) : AllDigits (fractionDigits s) ∧
    (fractionDigits s ≠ [] → '.' :: fractionDigits s ++ s.drop ((fractionDigits s).length + 1) = s) := by
  unfold fractionDigits
  split
  · next rest =>
    refine ⟨allDigits_takeWhile rest, fun _ => ?_⟩
    rw [List.drop_succ_cons, List.cons_append, takeWhile_append_drop]
  · exact ⟨List.forall_mem_nil _, fun h => absurd rfl h⟩

/-! The exponent. -/

theorem signs_spec (s : List Char) :
    let sign := (s.take 1).filter fun c => c = '-' || c = '+'
    (sign = [] ∨ sign = ['+'] ∨ sign = ['-']) ∧ sign ++ s.drop sign.length = s := by
  cases s with
  | nil => exact ⟨.inl rfl, rfl⟩
  | cons c t =>
    by_cases hm : c = '-'
    · subst hm
      exact ⟨.inr (.inr rfl), rfl⟩
    · by_cases hp : c = '+'
      · subst hp
        exact ⟨.inr (.inl rfl), rfl⟩
      · simp [hm, hp]

theorem exponentPart_spec (s : List Char) : ∃ e, e.length = (exponentPart s).2 ∧ IsExponent (exponentPart s).1 e ∧
    e ++ s.drop (exponentPart s).2 = s := by
  have hnone : ∃ e : List Char, e.length = 0 ∧ IsExponent 0 e ∧ e ++ s.drop 0 = s := ⟨[], rfl, .none, rfl⟩
  unfold exponentPart
  split
  · next mark rest =>
    split
    · next hm =>
      extract_lets sign digits n
      obtain ⟨hs, hsign⟩ := signs_spec rest
      split
      · exact hnone
      · next hn =>
        have hm' : mark = 'e' ∨ mark = 'E' := by simpa using hm
        have hdigits : digits ++ (rest.drop sign.length).drop digits.length = rest.drop sign.length :=
          takeWhile_append_drop _
        refine ⟨mark :: (sign ++ digits), ?_, ?_, ?_⟩
        · simp only [List.length_cons, List.length_append]
          omega
        · have he := IsExponent.some hm' hs (List.isEmpty_eq_false_iff.1 (Bool.eq_false_iff.2 hn))
            (allDigits_takeWhile (rest.drop sign.length))
          simpa [signed] using he
        · have hlength : 1 + sign.length + digits.length = sign.length + digits.length + 1 := by omega
          rw [hlength, List.drop_succ_cons, List.cons_append, List.append_assoc, ← List.drop_drop, hdigits, hsign]
    · exact hnone
  · exact hnone

theorem exponentPart_append {a : Int} (h : IsExponent a exponent) (hr : StopsNumber rest) :
    exponentPart (exponent ++ rest) = (a, exponent.length) := by
  cases h with
  | none => exact exponentPart_of_stops hr
  | some hm hs hn hd =>
    next mark sign digits =>
    obtain ⟨c, t, rfl⟩ := List.exists_cons_of_ne_nil hn
    have hc := hd c List.mem_cons_self
    have hmark : (decide (mark = 'e') || decide (mark = 'E')) = true := by simpa using hm
    have hfilter : ((sign ++ (c :: t) ++ rest).take 1).filter (fun c => c = '-' || c = '+') = sign := by
      rcases hs with rfl | rfl | rfl
      · have hne : ∀ d, isDigit d = false → c ≠ d := by
          rintro d h' rfl
          exact Bool.false_ne_true (h'.symm.trans hc)
        have hminus := hne '-' (by decide)
        have hplus := hne '+' (by decide)
        simp [hminus, hplus]
      · rfl
      · rfl
    have hdigits : ((sign ++ (c :: t) ++ rest).drop sign.length).takeWhile isDigit = c :: t := by
      rw [List.append_assoc, List.drop_left]
      exact hd.takeWhile_append hr.stopsDigits
    rw [List.cons_append, exponentPart, if_pos hmark]
    simp only [hfilter, hdigits]
    have hlength : 1 + sign.length + (c :: t).length = (mark :: (sign ++ c :: t)).length := by
      simp only [List.length_cons, List.length_append]
      omega
    rw [hlength]
    by_cases hsign : sign = ['-'] <;> simp [signed, hsign]

/-! Zeros at the end. -/

theorem digitsValue_append (s t : List Char) : digitsValue (s ++ t) = Nat.pow 10 t.length * digitsValue s + digitsValue t :=
  (Nat.ofDigitChars_append 0).trans Nat.ofDigitChars_eq_ofDigitChars_zero

theorem digitsValue_lt (h : AllDigits s) : digitsValue s < Nat.pow 10 s.length := by
  induction s using List.reverseRecOn with
  | nil => exact Nat.one_pos
  | append_singleton s c ih =>
    obtain ⟨hs, hc⟩ := List.forall_mem_append.1 h
    have hlt := ih hs
    have hd : c.toNat - 48 < 10 := by
      have hc := hc c List.mem_cons_self
      simp only [isDigit, Bool.and_eq_true, decide_eq_true_eq, Char.le_def, UInt32.le_iff_toNat_le] at hc
      have h9 : c.toNat ≤ 57 := hc.2
      omega
    have hone : digitsValue [c] = c.toNat - 48 := by simp [digitsValue]
    have hpow : Nat.pow 10 (s.length + 1) = Nat.pow 10 s.length * 10 := rfl
    rw [digitsValue_append, hone, List.length_append, List.length_singleton, hpow]
    have hten : Nat.pow 10 1 = 10 := rfl
    rw [hten]
    omega

theorem IsReduced.mul_ten {m n : Nat} {a b : Int} (h : IsReduced m (a + 1) n b) (h0 : m ≠ 0) :
    IsReduced (m * 10) a n b := by
  cases h with
  | zero => exact absurd rfl h0
  | shift hn _ k =>
    have hk : n * Nat.pow 10 k * 10 = n * Nat.pow 10 (k + 1) := Nat.mul_assoc ..
    have hb : a + 1 + (k : Int) = a + ((k + 1 : Nat) : Int) := by omega
    rw [hk, hb]
    exact .shift hn a (k + 1)

theorem isReduced_normalized {fuel m : Nat} (h : m < Nat.pow 10 fuel) (hf : 0 < fuel) (a : Int) :
    IsReduced m a (normalized fuel m a).1 (normalized fuel m a).2 := by
  -- A zero that is taken from the end leaves one digit less, and one step less to make.
  induction fuel generalizing m a with
  | zero => cases hf
  | succ fuel ih =>
    have hpow : Nat.pow 10 (fuel + 1) = Nat.pow 10 fuel * 10 := rfl
    rw [normalized]
    split
    · next h0 => exact h0 ▸ .zero a
    · next h0 =>
      split
      · next h10 =>
        have hpos : 0 < fuel := by
          refine Nat.pos_of_ne_zero ?_
          rintro rfl
          have hm : m < 10 := h
          omega
        have hr := ih (m := m / 10) (by omega) hpos (a + 1)
        have hm : m / 10 * 10 = m := by omega
        have hten := hr.mul_ten (by omega)
        rwa [hm] at hten
      · next h10 => simpa using IsReduced.shift h10 a 0

theorem normalized_shift {n : Nat} (h : n % 10 ≠ 0) {k fuel : Nat} (hk : k < fuel) (a : Int) :
    normalized fuel (n * Nat.pow 10 k) a = (n, a + k) := by
  induction k generalizing fuel a with
  | zero =>
    obtain ⟨fuel, rfl⟩ := Nat.exists_eq_add_one.2 hk
    have h0 : n ≠ 0 := by omega
    have hone : n * Nat.pow 10 0 = n := Nat.mul_one n
    rw [hone, normalized, if_neg h0, if_neg h]
    simp
  | succ k ih =>
    obtain ⟨fuel, rfl⟩ := Nat.exists_eq_add_one.2 (Nat.zero_lt_of_lt hk)
    have hm : n * Nat.pow 10 (k + 1) = n * Nat.pow 10 k * 10 := (Nat.mul_assoc ..).symm
    have hpos : 0 < n * Nat.pow 10 k := Nat.mul_pos (by omega) (Nat.pow_pos (by decide))
    have h0 : n * Nat.pow 10 k * 10 ≠ 0 := by omega
    rw [hm, normalized, if_neg h0, if_pos (Nat.mul_mod_left ..), Nat.mul_div_cancel _ (by decide), ih (by omega)]
    simp only [Prod.mk.injEq, true_and]
    omega

theorem IsReduced.normalized_eq {m n fuel : Nat} {a b : Int} (h : IsReduced m a n b) (hm : m < Nat.pow 10 fuel)
    (hf : 0 < fuel) : normalized fuel m a = (n, b) := by
  cases h with
  | zero =>
    obtain ⟨fuel, rfl⟩ := Nat.exists_eq_add_one.2 hf
    rw [normalized, if_pos rfl]
  | shift hn _ k =>
    refine normalized_shift hn ?_ a
    have hle : Nat.pow 10 k ≤ n * Nat.pow 10 k := Nat.le_mul_of_pos_left _ (by omega)
    exact (Nat.pow_lt_pow_iff_right (by decide)).1 (Nat.lt_of_le_of_lt hle hm)

/-! Whole numbers and decimals. -/

theorem head?_signText (negative : Bool) (h : IsWhole whole) (s : List Char) :
    ((signText negative ++ (whole ++ s)).head? == some '-') = negative := by
  cases negative with
  | true => rfl
  | false =>
    obtain ⟨c, t, rfl⟩ := List.exists_cons_of_ne_nil h.ne_nil
    have hc : c ≠ '-' := fun e => absurd (e ▸ h.allDigits c List.mem_cons_self) (by decide)
    simpa [signText] using hc

theorem drop_signText (negative : Bool) (s : List Char) :
    (if negative then (signText negative ++ s).drop 1 else signText negative ++ s) = s := by cases negative <;> rfl

theorem drop_fractionText (fraction s : List Char) :
    (if fraction.isEmpty then fractionText fraction ++ s
      else (fractionText fraction ++ s).drop (fraction.length + 1)) = s := by
  unfold fractionText
  split
  · rfl
  · rw [List.cons_append, List.drop_succ_cons, List.drop_left]

theorem IsExponent.head?_append {a : Int} (h : IsExponent a exponent) (hr : StopsNumber rest) :
    ∀ c ∈ (exponent ++ rest).head?, isDigit c = false ∧ c ≠ '.' := by
  cases h with
  | none => exact fun c hc => ⟨(hr c hc).1, (hr c hc).2.1⟩
  | some hm =>
    intro c hc
    cases hc
    rcases hm with rfl | rfl <;> decide

theorem readNumber_append (negative : Bool) {a : Int} (hw : IsWhole whole) (hf : AllDigits fraction)
    (he : IsExponent a exponent) (hr : StopsNumber rest) :
    readNumber (signText negative ++ (whole ++ (fractionText fraction ++ (exponent ++ rest)))) =
      if fraction.isEmpty && exponent.length = 0 then
        if maxDigits < whole.length then .error (.longNumber whole.length)
        else .ok (.int (signed negative (digitsValue whole)), rest)
      else
        let number := normalized (whole.length + fraction.length) (digitsValue (whole ++ fraction)) (a - fraction.length)
        .ok (.decimal negative (.rounded number.1 number.2), rest) := by
  have hafter := he.head?_append hr
  -- Each part ends where the next one starts, as none of the later ones starts with a digit.
  have hwhole : wholeDigits (whole ++ (fractionText fraction ++ (exponent ++ rest))) = whole := by
    refine hw.wholeDigits_append ?_
    unfold fractionText
    split
    · exact fun c hc => (hafter c hc).1
    · exact stopsDigits_cons (by decide) _
  have hfraction : fractionDigits (fractionText fraction ++ (exponent ++ rest)) = fraction :=
    fractionDigits_append hf (fun c hc => (hafter c hc).1) fun _ hc => (hafter '.' hc).2 rfl
  have hne : whole.isEmpty = false := List.isEmpty_eq_false_iff.2 hw.ne_nil
  simp only [readNumber, head?_signText negative hw, drop_signText, hwhole, hne, List.drop_left, hfraction,
    drop_fractionText, exponentPart_append he hr, Bool.false_eq_true, if_false]
  by_cases hp : (fraction.isEmpty && decide (exponent.length = 0)) = true
  · obtain ⟨hf0, he0⟩ : fraction = [] ∧ exponent = [] := by simpa using hp
    rw [if_pos hp, if_pos hp, hf0, he0]
    rfl
  · rw [if_neg hp, if_neg hp]

theorem readNumber_of_isNumber {v : Value} (h : IsNumber v s) (hr : StopsNumber rest) :
    readNumber (s ++ rest) = .ok (v, rest) := by
  cases h with
  | int negative hw hl =>
    have hread := readNumber_append negative hw (List.forall_mem_nil _) .none hr
    rw [List.append_assoc]
    exact hread.trans (if_neg (Nat.not_lt.2 hl))
  | @decimal negative whole fraction exponent a b n hw hf he hp hn =>
    have hlt : digitsValue (whole ++ fraction) < Nat.pow 10 (whole.length + fraction.length) := by
      rw [← List.length_append]
      exact digitsValue_lt (hw.allDigits.append hf)
    have hpos : 0 < whole.length := List.length_pos_iff.2 hw.ne_nil
    have hnone : ¬(fraction.isEmpty && decide (exponent.length = 0)) = true := by
      simpa [Classical.or_iff_not_imp_left] using hp
    rw [List.append_assoc, List.append_assoc, List.append_assoc, readNumber_append negative hw hf he hr, if_neg hnone,
      hn.normalized_eq hlt (by omega)]

theorem isNumber_of_readNumber {v : Value} (h : readNumber s = .ok (v, rest)) : ∃ t, s = t ++ rest ∧ IsNumber v t := by
  unfold readNumber at h
  extract_lets negative unsigned whole afterWhole fraction afterFraction at h
  have hs : signText negative ++ unsigned = s := by
    by_cases hm : negative = true
    · obtain ⟨t, rfl⟩ := List.head?_eq_some_iff.1 (beq_iff_eq.1 hm)
      rfl
    · rw [signText, if_neg hm]
      exact if_neg hm
  obtain hw | ⟨hw, hwhole⟩ := wholeDigits_cases unsigned
  · rw [if_pos (List.isEmpty_iff.2 hw)] at h
    cases h
  · rw [if_neg (mt List.isEmpty_iff.1 hw.ne_nil)] at h
    obtain ⟨hf, hfraction⟩ := fractionDigits_spec afterWhole
    obtain ⟨exponent, hused, he, hexponent⟩ := exponentPart_spec afterFraction
    generalize exponentPart afterFraction = e at h hused he hexponent
    obtain ⟨a, used⟩ := e
    have hafter : fractionText fraction ++ afterFraction = afterWhole := by
      by_cases hne : fraction = []
      · rw [fractionText, if_pos (List.isEmpty_iff.2 hne)]
        exact if_pos (List.isEmpty_iff.2 hne)
      · rw [fractionText, if_neg (mt List.isEmpty_iff.1 hne)]
        have ha : afterFraction = afterWhole.drop (fraction.length + 1) := if_neg (mt List.isEmpty_iff.1 hne)
        rw [ha]
        exact hfraction hne
    simp only at h
    split at h
    · split at h
      · cases h
      · next hl =>
        obtain ⟨rfl, hrest⟩ := Prod.mk.inj (Except.ok.inj h)
        refine ⟨signText negative ++ whole, ?_, .int negative hw (Nat.le_of_not_lt hl)⟩
        rw [← hrest, List.append_assoc, hwhole, hs]
    · next hp =>
      obtain ⟨rfl, hrest⟩ := Prod.mk.inj (Except.ok.inj h)
      have hlt : digitsValue (whole ++ fraction) < Nat.pow 10 (whole.length + fraction.length) := by
        rw [← List.length_append]
        exact digitsValue_lt (hw.allDigits.append hf)
      have hpos : 0 < whole.length + fraction.length := Nat.add_pos_left (List.length_pos_iff.2 hw.ne_nil) _
      refine ⟨signText negative ++ whole ++ fractionText fraction ++ exponent, ?_,
        .decimal negative hw hf he ?_ (isReduced_normalized hlt hpos _)⟩
      · rw [← hrest, List.append_assoc, List.append_assoc, List.append_assoc, hexponent, hafter, hwhole, hs]
      · rw [← Classical.not_and_iff_not_or_not]
        rintro ⟨hf0, he0⟩
        rw [he0] at hused
        exact hp (Bool.and_eq_true_iff.2 ⟨List.isEmpty_iff.2 hf0, decide_eq_true hused.symm⟩)

end ModelForge.Json
