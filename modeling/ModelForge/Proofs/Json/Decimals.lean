import ModelForge.Proofs.Json.Parsing
import ModelForge.Proofs.Magnitudes

/-! Decimals are written as texts of themselves. The writer chooses the layout by where the point falls. -/

namespace ModelForge

namespace Json

open Magnitude (IsNormal IsKept)

variable {s t whole fraction exponent : List Char} {d : Nat} {e : Int} {m : Nat}

theorem isNumber_decimal (negative : Bool) {a : Int} {k : Nat} (hw : IsWhole whole) (hf : AllDigits fraction)
    (he : IsExponent a exponent) (hp : fraction ≠ [] ∨ exponent ≠ []) (hm : m % 10 ≠ 0)
    (hv : digitsValue (whole ++ fraction) = m * Nat.pow 10 k) (hb : a - fraction.length + k = e) :
    IsNumber (.decimal negative (.rounded m e)) (signText negative ++ whole ++ fractionText fraction ++ exponent) := by
  refine .decimal negative hw hf he hp ?_
  rw [hv, ← hb]
  exact .shift hm _ k

theorem allDigits_replicate (k : Nat) : AllDigits (List.replicate k '0') := by
  intro c hc
  rw [List.eq_of_mem_replicate hc]
  rfl

theorem digitsValue_replicate (k : Nat) : digitsValue (List.replicate k '0') = 0 := by
  induction k with
  | zero => rfl
  | succ k ih =>
    rw [List.replicate_succ', digitsValue_append, ih]
    rfl

theorem digitsValue_zero_cons (s : List Char) : digitsValue ('0' :: s) = digitsValue s := rfl

theorem allDigits_toDigits (m : Nat) : AllDigits (Nat.toDigits 10 m) := fun _ => isDigit_of_mem_toDigits

section

variable (negative : Bool) (hm : m % 10 ≠ 0)
include hm

theorem exists_toDigits_eq : ∃ c s, Nat.toDigits 10 m = c :: s ∧ isDigit c = true ∧ c ≠ '0' ∧ AllDigits s := by
  obtain ⟨c, s, hs, hc⟩ := exists_toDigits_eq_cons (n := m) (by omega)
  obtain ⟨hc', hs'⟩ := List.forall_mem_cons.1 (hs ▸ allDigits_toDigits m)
  exact ⟨c, s, hs, hc', hc, hs'⟩

theorem isNumber_small (k : Nat) (he : -((k : Int) + (Nat.toDigits 10 m).length) = e) :
    IsNumber (.decimal negative (.rounded m e))
      (signText negative ++ ("0.".toList ++ List.replicate k '0' ++ Nat.toDigits 10 m)) := by
  have hne : List.replicate k '0' ++ Nat.toDigits 10 m ≠ [] := by simp [Nat.toDigits_ne_nil]
  have hvalue : digitsValue (['0'] ++ (List.replicate k '0' ++ Nat.toDigits 10 m)) = m * Nat.pow 10 0 := by
    rw [List.singleton_append, digitsValue_zero_cons, digitsValue_append, digitsValue_replicate, digitsValue_toDigits]
    simp
  have hfraction := (allDigits_replicate k).append (allDigits_toDigits m)
  have h := isNumber_decimal (e := e) negative .zero hfraction .none (.inl hne) hm hvalue (by simp; omega)
  simpa [fractionText, hne] using h

theorem isNumber_large (k : Nat) (he : (k : Int) = e) :
    IsNumber (.decimal negative (.rounded m e))
      (signText negative ++ (Nat.toDigits 10 m ++ List.replicate k '0' ++ ".0".toList)) := by
  have hwhole : IsWhole (Nat.toDigits 10 m ++ List.replicate k '0') := by
    obtain ⟨c, s, hs, hc, h0, hd⟩ := exists_toDigits_eq hm
    exact hs ▸ .digits hc h0 (hd.append (allDigits_replicate k))
  have hvalue : digitsValue (Nat.toDigits 10 m ++ List.replicate k '0' ++ ['0']) = m * Nat.pow 10 (k + 1) := by
    have hzeros : digitsValue (List.replicate k '0' ++ ['0']) = 0 := by
      rw [← List.replicate_succ', digitsValue_replicate]
    rw [List.append_assoc, digitsValue_append, hzeros, digitsValue_toDigits, Nat.mul_comm]
    simp
  have hne : List.replicate 1 '0' ≠ [] := List.cons_ne_nil _ _
  have h := isNumber_decimal (e := e) negative hwhole (allDigits_replicate 1) .none (.inl hne) hm hvalue (by simp; omega)
  simpa [fractionText] using h

theorem isNumber_split {a : Int} {k : Nat} (h0 : 0 < k) (he : IsExponent a exponent)
    (hp : k < (Nat.toDigits 10 m).length ∨ exponent ≠ [])
    (ha : a + min k (Nat.toDigits 10 m).length - (Nat.toDigits 10 m).length = e) :
    IsNumber (.decimal negative (.rounded m e))
      (signText negative ++ ((Nat.toDigits 10 m).take k ++ fractionText ((Nat.toDigits 10 m).drop k) ++ exponent)) := by
  have hwhole : IsWhole ((Nat.toDigits 10 m).take k) := by
    obtain ⟨c, s, hs, hc, h0', hd⟩ := exists_toDigits_eq hm
    obtain ⟨k, rfl⟩ := Nat.exists_eq_add_one.2 h0
    rw [hs, List.take_succ_cons]
    exact .digits hc h0' fun d hd' => hd d (List.mem_of_mem_take hd')
  have hfraction : AllDigits ((Nat.toDigits 10 m).drop k) := fun d hd => allDigits_toDigits m d (List.mem_of_mem_drop hd)
  have hvalue : digitsValue ((Nat.toDigits 10 m).take k ++ (Nat.toDigits 10 m).drop k) = m * Nat.pow 10 0 := by
    rw [List.take_append_drop, digitsValue_toDigits]
    exact (Nat.mul_one m).symm
  have hp' : (Nat.toDigits 10 m).drop k ≠ [] ∨ exponent ≠ [] := by
    rwa [ne_eq, List.drop_eq_nil_iff, Nat.not_le]
  have h := isNumber_decimal (e := e) negative hwhole hfraction he hp' hm hvalue (by simp; omega)
  simpa using h

end

theorem toList_toString_nat (n : Nat) : (toString n).toList = Nat.toDigits 10 n := by
  simp [toString, Nat.repr]

theorem isExponent_padded (a : Int) :
    let digits := Nat.toDigits 10 a.natAbs
    IsExponent a (['e', if a < 0 then '-' else '+'] ++ if digits.length < 2 then '0' :: digits else digits) := by
  intro digits
  generalize hpad : (if digits.length < 2 then '0' :: digits else digits) = padded
  obtain ⟨hall, hvalue, hne⟩ : AllDigits padded ∧ digitsValue padded = a.natAbs ∧ padded ≠ [] := by
    have hall : AllDigits digits := allDigits_toDigits a.natAbs
    have hvalue : digitsValue digits = a.natAbs := digitsValue_toDigits a.natAbs
    rw [← hpad]
    split
    · exact ⟨List.forall_mem_cons.2 ⟨rfl, hall⟩, hvalue, List.cons_ne_nil _ _⟩
    · exact ⟨hall, hvalue, Nat.toDigits_ne_nil⟩
  have hmark : 'e' = 'e' ∨ 'e' = 'E' := .inl rfl
  by_cases ha : a < 0
  · have h := IsExponent.some hmark (.inr (.inr rfl)) hne hall
    have hs : signed (decide (['-'] = ['-'])) (digitsValue padded) = a := by
      rw [hvalue]
      exact (by omega : -(a.natAbs : Int) = a)
    rw [hs] at h
    rwa [if_pos ha]
  · have h := IsExponent.some hmark (.inr (.inl rfl)) hne hall
    have hs : signed (decide (['+'] = ['-'])) (digitsValue padded) = a := by
      rw [hvalue]
      exact (by omega : (a.natAbs : Int) = a)
    rw [hs] at h
    rwa [if_neg ha]

theorem isNumber_finiteText (negative : Bool) (h : IsNormal d e) :
    IsNumber (.decimal negative (.rounded d e)) (signText negative ++ Value.finiteText d e) := by
  simp only [Value.finiteText, toList_toString_nat]
  rcases h with ⟨rfl, rfl⟩ | hm
  · have hzero := IsNumber.decimal negative .zero (allDigits_replicate 1) .none (.inl (List.cons_ne_nil _ _)) (.zero _)
    simpa [fractionText] using hzero
  · have hd : d ≠ 0 := by
      rintro rfl
      exact hm rfl
    have hn : 0 < (Nat.toDigits 10 d).length := List.length_pos_iff.2 Nat.toDigits_ne_nil
    rw [if_neg hd]
    generalize hpoint : ((Nat.toDigits 10 d).length : Int) + e = point
    -- The point is written before, behind or between the digits; if it is far off, there is an exponent.
    split
    · split
      · exact isNumber_small _ hm _ (by omega)
      · split
        · exact isNumber_large _ hm _ (by omega)
        · have hfraction : '.' :: (Nat.toDigits 10 d).drop point.toNat =
              fractionText ((Nat.toDigits 10 d).drop point.toNat) ++ [] := by
            have hne : (Nat.toDigits 10 d).drop point.toNat ≠ [] := by
              rw [ne_eq, List.drop_eq_nil_iff]
              omega
            rw [fractionText, if_neg (mt List.isEmpty_iff.1 hne), List.append_nil]
          rw [hfraction, ← List.append_assoc ((Nat.toDigits 10 d).take _)]
          refine isNumber_split _ hm ?_ .none (.inl ?_) ?_ <;> omega
    · have he := isExponent_padded (point - 1)
      have hfraction : (if (Nat.toDigits 10 d).length = 1 then [] else '.' :: (Nat.toDigits 10 d).drop 1) =
          fractionText ((Nat.toDigits 10 d).drop 1) := by
        have hiff : (Nat.toDigits 10 d).length = 1 ↔ ((Nat.toDigits 10 d).drop 1).isEmpty = true := by
          rw [List.isEmpty_iff, List.drop_eq_nil_iff]
          omega
        simp only [fractionText, hiff]
      rw [hfraction, List.append_assoc _ ['e', _]]
      exact isNumber_split _ hm Nat.one_pos he (.inr (List.cons_ne_nil _ _)) (by omega)

end Json

end ModelForge
