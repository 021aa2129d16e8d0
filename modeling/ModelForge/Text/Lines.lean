/-! Cutting a text at every occurrence of a character, and joining the pieces again. -/

namespace ModelForge.Text

/-- The pieces between the occurrences of `sep`, one more than there are occurrences. -/
def cutAt (sep : Char) : List Char → List (List Char)
  | [] => [[]]
  | c :: rest =>
    match cutAt sep rest with
    | [] => [[c]]
    | piece :: pieces => if c = sep then [] :: piece :: pieces else (c :: piece) :: pieces

def joinWith (sep : List Char) : List (List Char) → List Char
  | [] => []
  | [piece] => piece
  | piece :: pieces => piece ++ sep ++ joinWith sep pieces

def lines (s : List Char) : List (List Char) := cutAt '\n' s

theorem cutAt_ne_nil (sep : Char) (s : List Char) : cutAt sep s ≠ [] := by
  cases s with
  | nil => simp [cutAt]
  | cons c rest =>
    unfold cutAt
    split
    · simp
    · split <;> simp

theorem joinWith_cons (sep piece : List Char) {pieces : List (List Char)} (h : pieces ≠ []) :
    joinWith sep (piece :: pieces) = piece ++ sep ++ joinWith sep pieces := by
  cases pieces with
  | nil => exact absurd rfl h
  | cons p ps => rfl

theorem joinWith_cutAt (sep : Char) (s : List Char) : joinWith [sep] (cutAt sep s) = s := by
  induction s with
  | nil => rfl
  | cons c rest ih =>
    unfold cutAt
    split
    · next h => exact absurd h (cutAt_ne_nil sep rest)
    · next piece pieces h =>
      rw [h] at ih
      split
      · next hc => rw [joinWith_cons _ _ (by simp), ih, hc]; rfl
      · rw [← ih]
        cases pieces <;> rfl

section

variable {sep : Char} {a b s : List Char}

theorem cutAt_cons_self (sep : Char) (s : List Char) : cutAt sep (sep :: s) = [] :: cutAt sep s := by
  cases h : cutAt sep s with
  | nil => exact absurd h (cutAt_ne_nil sep s)
  | cons piece pieces => simp [cutAt, h]

theorem cutAt_append (sep : Char) (a b : List Char) : cutAt sep (a ++ sep :: b) = cutAt sep a ++ cutAt sep b := by
  induction a with
  | nil => exact cutAt_cons_self sep b
  | cons c a ih =>
    cases ha : cutAt sep a with
    | nil => exact absurd ha (cutAt_ne_nil sep a)
    | cons p ps => by_cases hc : c = sep <;> simp [cutAt, ih, ha, hc]

theorem cutAt_of_not_mem (h : sep ∉ a) : cutAt sep a = [a] := by
  induction a with
  | nil => rfl
  | cons c a ih =>
    rw [List.mem_cons, not_or] at h
    simp [cutAt, ih h.2, Ne.symm h.1]

theorem not_mem_of_mem_cutAt {piece : List Char} (h : piece ∈ cutAt sep s) : sep ∉ piece := by
  induction s generalizing piece with
  | nil => simp_all [cutAt]
  | cons c s ih =>
    by_cases hc : c = sep
    · subst hc
      rw [cutAt_cons_self] at h
      rcases List.mem_cons.1 h with rfl | h
      · simp
      · exact ih h
    · cases hs : cutAt sep s with
      | nil => exact absurd hs (cutAt_ne_nil sep s)
      | cons p ps =>
        simp only [cutAt, hs, if_neg hc, List.mem_cons] at h
        rcases h with rfl | h
        · simpa [Ne.symm hc] using ih (hs ▸ List.mem_cons_self ..)
        · exact ih (hs ▸ List.mem_cons_of_mem _ h)

theorem exists_cutAt_append (h : sep ∉ b) (a : List Char) : ∃ pieces last, cutAt sep (a ++ b) = pieces ++ [last ++ b] := by
  induction a with
  | nil => exact ⟨[], [], cutAt_of_not_mem h⟩
  | cons c a ih =>
    obtain ⟨pieces, last, hp⟩ := ih
    by_cases hc : c = sep
    · subst hc
      refine ⟨[] :: pieces, last, ?_⟩
      rw [List.cons_append, cutAt_cons_self, hp]
      rfl
    · cases pieces with
      | nil => exact ⟨[], c :: last, by simp [cutAt, hp, hc]⟩
      | cons piece pieces => exact ⟨(c :: piece) :: pieces, last, by simp [cutAt, hp, hc]⟩

end

end ModelForge.Text
