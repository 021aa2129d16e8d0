import Mathlib.Data.List.Infix
import ModelForge.FileTree.Search

/-! Which names a pattern that starts with a star stands for. They are the names that end in the rest of it just if every
character of the rest stands for itself. -/

namespace ModelForge

namespace Glob

variable {s name : List Char} {ps : List Piece} {p : Piece}

/-- Every character of the pattern stands for itself. -/
def IsPlain (s : List Char) : Prop := pieces s = s.map .char

instance : DecidablePred IsPlain := fun s => inferInstanceAs (Decidable (pieces s = s.map .char))

theorem fits_star_iff : fits (.star :: ps) name = true ↔ ∃ v, v <:+ name ∧ fits ps v = true := by
  induction name with
  | nil => simp [fits]
  | cons c name ih =>
    rw [fits, Bool.or_eq_true, ih]
    simp only [List.suffix_cons_iff, or_and_right, exists_or, exists_eq_left]

theorem fits_cons_iff (hp : p ≠ .star) :
    fits (p :: ps) name = true ↔ ∃ c rest, name = c :: rest ∧ p.accepts c = true ∧ fits ps rest = true := by
  cases name with
  | nil => cases p <;> simp_all [fits]
  | cons c name => cases p <;> simp_all [fits]

theorem not_fits_cons (hp : p ≠ .star) (h : ∀ name, ¬ fits ps name = true) (name : List Char) :
    ¬ fits (p :: ps) name = true := by
  rw [fits_cons_iff hp]
  rintro ⟨-, rest, -, -, hr⟩
  exact h rest hr

theorem fits_map_char : fits (s.map .char) name = true ↔ name = s := by
  induction s generalizing name with
  | nil => simp [fits]
  | cons c s ih =>
    have hc : Piece.char c ≠ .star := by simp
    rw [List.map_cons, fits_cons_iff hc]
    simp [ih, Piece.accepts]

theorem isMatch_star_iff : isMatch ('*' :: s) name = true ↔ ∃ v, v <:+ name ∧ fits (pieces s) v = true := by
  rw [isMatch, pieces, fits_star_iff]

theorem IsPlain.isMatch_iff (h : IsPlain s) : isMatch ('*' :: s) name = true ↔ s <:+ name := by
  rw [isMatch_star_iff, h]
  simp [fits_map_char]

theorem classPiece_ne (body : List Char) : classPiece body ≠ .star ∧ ∀ c, classPiece body ≠ .char c := by
  unfold classPiece
  dsimp only
  split
  · split <;> exact ⟨nofun, nofun⟩
  · exact ⟨nofun, nofun⟩

/-- A pattern that stands for some name has one that is no longer than itself, and that name is not the pattern unless the
pattern is plain. -/
def IsShortened (s : List Char) (ps : List Piece) : Prop :=
  (∀ name, ¬ fits ps name = true) ∨
    ∃ name, fits ps name = true ∧ name.length ≤ s.length ∧ (name = s → ps = s.map .char)

theorem IsShortened.char (h : IsShortened s ps) (c : Char) : IsShortened (c :: s) (.char c :: ps) := by
  have hc : Piece.char c ≠ .star := by simp
  rcases h with hnone | ⟨name, hf, hl, hs⟩
  · exact .inl (not_fits_cons hc hnone)
  · have hfits : fits (.char c :: ps) (c :: name) = true := (fits_cons_iff hc).2 ⟨c, name, rfl, by simp [Piece.accepts], hf⟩
    refine .inr ⟨c :: name, hfits, Nat.succ_le_succ hl, fun he => ?_⟩
    rw [hs (List.cons.inj he).2]
    rfl

theorem IsShortened.cons {front : List Char} (h : IsShortened s ps) (hp : p ≠ .star) (hl : s.length + 1 < front.length) :
    IsShortened front (p :: ps) := by
  by_cases hc : ∃ c, p.accepts c = true
  · obtain ⟨c, hc⟩ := hc
    rcases h with hnone | ⟨name, hf, hn, -⟩
    · exact .inl (not_fits_cons hp hnone)
    · refine .inr ⟨c :: name, (fits_cons_iff hp).2 ⟨c, name, rfl, hc, hf⟩, ?_, fun he => ?_⟩
      · simp only [List.length_cons]
        omega
      · have := congrArg List.length he
        simp only [List.length_cons] at this
        omega
  · left
    intro name hf
    obtain ⟨c, -, -, ha, -⟩ := (fits_cons_iff hp).1 hf
    exact hc ⟨c, ha⟩

theorem isShortened (s : List Char) : IsShortened s (pieces s) := by
  fun_induction pieces s with
  | case1 => exact .inr ⟨[], by simp [fits], Nat.le_refl _, fun _ => rfl⟩
  | case2 rest ih =>
    -- The star is left out.
    rcases ih with hnone | ⟨name, hf, hl, -⟩
    · refine .inl fun name hf => ?_
      obtain ⟨v, -, hv⟩ := fits_star_iff.1 hf
      exact hnone v hv
    · refine .inr ⟨name, fits_star_iff.2 ⟨name, List.suffix_refl _, hf⟩, Nat.le_succ_of_le hl, fun he => ?_⟩
      rw [he, List.length_cons] at hl
      omega
  | case3 rest ih =>
    -- The question mark stands for another character than itself.
    have hq : Piece.any ≠ .star := by simp
    rcases ih with hnone | ⟨name, hf, hl, -⟩
    · exact .inl (not_fits_cons hq hnone)
    · refine .inr ⟨'a' :: name, (fits_cons_iff hq).2 ⟨'a', name, rfl, rfl, hf⟩, Nat.succ_le_succ hl, fun he => ?_⟩
      cases (List.cons.inj he).1
  | case4 rest body after h _ ih =>
    have := classBody_length h
    refine IsShortened.cons ih (classPiece_ne body).1 ?_
    simp only [List.length_cons]
    omega
  | case5 rest h ih => exact IsShortened.char ih '['
  | case6 c rest _ _ _ ih => exact IsShortened.char ih c

theorem isPlain_iff : IsPlain s ↔ ∀ name, isMatch ('*' :: s) name = true ↔ s <:+ name := by
  refine ⟨fun h name => h.isMatch_iff, fun h => ?_⟩
  obtain ⟨v, -, hv⟩ := isMatch_star_iff.1 ((h s).2 (List.suffix_refl s))
  rcases isShortened s with hnone | ⟨name, hf, hl, hs⟩
  · exact absurd hv (hnone v)
  · have hm : s <:+ name := (h name).1 (isMatch_star_iff.2 ⟨name, List.suffix_refl _, hf⟩)
    exact hs (hm.eq_of_length_le hl).symm

theorem isPlain_of_forall (h : ∀ c ∈ s, c ≠ '*' ∧ c ≠ '?' ∧ c ≠ '[') : IsPlain s := by
  induction s with
  | nil => rw [IsPlain, pieces]; rfl
  | cons c s ih =>
    obtain ⟨⟨hstar, hany, hopen⟩, hs⟩ := List.forall_mem_cons.1 h
    have hrest : pieces s = s.map .char := ih hs
    rw [IsPlain, pieces]
    · rw [hrest]
      rfl
    · exact fun he => hstar he
    · exact fun he => hany he
    · exact fun he => hopen he

theorem IsPlain.star_not_mem (h : IsPlain s) : '*' ∉ s := by
  unfold IsPlain at h
  fun_induction pieces s with
  | case1 => nofun
  | case2 rest ih => cases (List.cons.inj h).1
  | case3 rest ih => cases (List.cons.inj h).1
  | case4 rest body after hb _ ih => exact absurd (List.cons.inj h).1 ((classPiece_ne body).2 '[')
  | case5 rest hb ih => simpa using ih (List.cons.inj h).2
  | case6 c rest hc _ _ ih =>
    rw [List.mem_cons, not_or]
    exact ⟨fun he => hc he.symm, ih (List.cons.inj h).2⟩

end Glob

end ModelForge
