import ModelForge.Text.Lowercase

/-! Lower case is reached in one step: what lower case leaves is lower case, wherever it stands. -/

namespace ModelForge.Text

/-- Neither of the two characters that need a rule of their own, and its own lower case form. -/
structure IsLower (c : Char) : Prop where
  ne_dotted : c ≠ '\u0130'
  ne_sigma : c ≠ 'Σ'
  lowerChar_eq : lowerChar c = c

instance (c : Char) : Decidable (IsLower c) :=
  decidable_of_iff (c ≠ '\u0130' ∧ c ≠ 'Σ' ∧ lowerChar c = c)
    ⟨fun h => ⟨h.1, h.2.1, h.2.2⟩, fun h => ⟨h.ne_dotted, h.ne_sigma, h.lowerChar_eq⟩⟩

namespace CaseRun

variable {r s : CaseRun} {n m : Nat}

theorem lower?_eq_some_iff :
    r.lower? n = some m ↔ (r.first ≤ n ∧ n ≤ r.last ∧ (n - r.first) % r.step = 0) ∧ r.lower + (n - r.first) = m := by
  simp [lower?, and_assoc]

/-- No lower case form of the first run belongs to the second: all of them lie before it, after it, or between its steps. -/
def avoids (r s : CaseRun) : Bool :=
  (r.lower + (r.last - r.first)).blt s.first || s.last.blt r.lower ||
    (s.step = 2 && (r.step = 2 || r.first = r.last) && (r.lower + s.first) % 2 = 1)

theorem lower?_eq_none_of_avoids (h : r.avoids s = true) (hm : r.lower? n = some m) : s.lower? m = none := by
  obtain ⟨⟨hf, hl, hs⟩, rfl⟩ := lower?_eq_some_iff.1 hm
  rw [Option.eq_none_iff_forall_ne_some]
  intro k hk
  obtain ⟨⟨hf', hl', hs'⟩, -⟩ := lower?_eq_some_iff.1 hk
  simp only [avoids, Bool.or_eq_true, Bool.and_eq_true, decide_eq_true_eq, Nat.blt_eq] at h
  rcases h with (h | h) | ⟨⟨h2, h1⟩, hp⟩
  · omega
  · omega
  · rw [h2] at hs'
    rcases h1 with h1 | h1
    · rw [h1] at hs
      omega
    · omega

end CaseRun

def changingRuns : List CaseRun := ⟨0x130, 0x130, 1, 0x69⟩ :: ⟨0x3A3, 0x3A3, 1, 0x3C3⟩ :: caseRuns

theorem caseRuns_avoid : (caseRuns.all fun r => changingRuns.all r.avoids) = true := by decide +kernel

theorem isLower_of_lower?_eq_none {c : Char} (h : ∀ s ∈ changingRuns, s.lower? c.toNat = none) : IsLower c := by
  obtain ⟨hd, hs, hr⟩ : _ ∧ _ ∧ ∀ s ∈ caseRuns, s.lower? c.toNat = none := by
    simpa only [changingRuns, List.forall_mem_cons] using h
  refine ⟨?_, ?_, ?_⟩
  · rintro rfl
    exact absurd hd (by decide)
  · rintro rfl
    exact absurd hs (by decide)
  · rw [lowerChar, List.findSome?_eq_none_iff.2 hr]
    rfl

theorem isLower_lowerChar {c : Char} (hd : c ≠ '\u0130') (hs : c ≠ 'Σ') : IsLower (lowerChar c) := by
  cases hf : caseRuns.findSome? (·.lower? c.toNat) with
  | none =>
    have hc : lowerChar c = c := by rw [lowerChar, hf]; rfl
    exact ⟨hc.symm ▸ hd, hc.symm ▸ hs, by rw [hc, hc]⟩
  | some m =>
    obtain ⟨r, hr, hm⟩ := List.exists_of_findSome?_eq_some hf
    have hc : lowerChar c = Char.ofNat m := by rw [lowerChar, hf]; rfl
    rw [hc]
    by_cases hv : m.isValidChar
    · have hn : (Char.ofNat m).toNat = m := by
        rw [Char.ofNat, dif_pos hv]
        rfl
      refine isLower_of_lower?_eq_none fun s hs => ?_
      rw [hn]
      have ha := List.all_eq_true.1 (List.all_eq_true.1 caseRuns_avoid r hr) s hs
      exact CaseRun.lower?_eq_none_of_avoids ha hm
    · -- A number that is no character's stands for the null character.
      rw [Char.ofNat, dif_neg hv]
      decide +kernel

theorem isLower_of_mem_lowerFrom {s before : List Char} : ∀ c ∈ lowerFrom before s, IsLower c := by
  induction s generalizing before with
  | nil => nofun
  | cons a s ih =>
    intro c hc
    rcases List.mem_append.1 hc with hh | hr
    · by_cases hd : a = '\u0130'
      · rw [if_pos hd] at hh
        rcases List.mem_cons.1 hh with rfl | hh
        · decide +kernel
        · rw [List.mem_singleton.1 hh]
          decide +kernel
      · rw [if_neg hd] at hh
        by_cases hs : a = 'Σ'
        · rw [if_pos hs, List.mem_singleton] at hh
          subst hh
          split
          · decide +kernel
          · decide +kernel
        · rw [if_neg hs, List.mem_singleton] at hh
          exact hh ▸ isLower_lowerChar hd hs
    · exact ih c hr

theorem lowerFrom_of_isLower {s : List Char} (h : ∀ c ∈ s, IsLower c) (before : List Char) : lowerFrom before s = s := by
  induction s generalizing before with
  | nil => rfl
  | cons c s ih =>
    obtain ⟨hc, hr⟩ := List.forall_mem_cons.1 h
    rw [lowerFrom, if_neg hc.ne_dotted, if_neg hc.ne_sigma, hc.lowerChar_eq, ih hr]
    rfl

theorem lower_lower (s : String) : lower (lower s) = lower s := by
  rw [lower, lower, String.toList_ofList, lowerFrom_of_isLower isLower_of_mem_lowerFrom]

end ModelForge.Text
