import Mathlib.Data.List.DropRight
import Mathlib.Data.List.TakeWhile
import ModelForge.Text.Blank

/-! Texts and lists without what stands at their ends: what is taken away, what stays, and when nothing changes. -/

namespace ModelForge.Text

section Strip

variable {α : Type} {p : α → Bool} {front l : List α} {x : α}

theorem stripBy_eq_self (hf : ∃ x, l.head? = some x ∧ p x = false) (hl : ∃ x, l.getLast? = some x ∧ p x = false) :
    stripBy p l = l := by
  obtain ⟨x, hx, hxp⟩ := hf
  obtain ⟨y, hy, hyp⟩ := hl
  obtain ⟨t, rfl⟩ := List.head?_eq_some_iff.1 hx
  rw [stripBy, List.dropWhile_cons_of_neg (by simp [hxp])]
  obtain ⟨u, hu⟩ := List.getLast?_eq_some_iff.1 hy
  rw [hu, List.reverse_append, List.reverse_singleton, List.singleton_append, List.dropWhile_cons_of_neg (by simp [hyp]),
    List.reverse_cons, List.reverse_reverse]

theorem prefix_rdropWhile (h : ∃ x, front.getLast? = some x ∧ p x = false) (rest : List α) :
    front <+: (front ++ rest).rdropWhile p := by
  have hr : front.reverse.dropWhile p = front.reverse := by
    obtain ⟨x, hx, hp⟩ := h
    obtain ⟨t, rfl⟩ := List.getLast?_eq_some_iff.1 hx
    rw [List.reverse_append, List.reverse_singleton, List.singleton_append, List.dropWhile_cons_of_neg (by simp [hp])]
  rw [List.rdropWhile, List.reverse_append, List.dropWhile_append]
  split
  · exact ⟨[], by rw [hr, List.reverse_reverse, List.append_nil]⟩
  · rw [List.reverse_append, List.reverse_reverse]
    exact List.prefix_append _ _

theorem prefix_stripBy (hf : ∃ x, front.head? = some x ∧ p x = false) (hl : ∃ x, front.getLast? = some x ∧ p x = false)
    (rest : List α) : front <+: stripBy p (front ++ rest) := by
  obtain ⟨x, hx, hp⟩ := hf
  obtain ⟨t, rfl⟩ := List.head?_eq_some_iff.1 hx
  rw [stripBy, List.cons_append, List.dropWhile_cons_of_neg (by simp [hp])]
  exact prefix_rdropWhile hl rest

theorem stripBy_append (hf : ∃ x, front.head? = some x ∧ p x = false) (hl : ∃ x, l.head? = some x ∧ p x = false) :
    stripBy p (front ++ l) = front ++ stripBy p l := by
  obtain ⟨x, hx, hxp⟩ := hf
  obtain ⟨y, hy, hyp⟩ := hl
  obtain ⟨t, rfl⟩ := List.head?_eq_some_iff.1 hx
  obtain ⟨u, rfl⟩ := List.head?_eq_some_iff.1 hy
  have hne : ((y :: u).reverse.dropWhile p).isEmpty = false := by
    rw [← Bool.not_eq_true, List.isEmpty_iff, List.dropWhile_eq_nil_iff]
    intro h
    have hy := h y (by simp)
    rw [hyp] at hy
    cases hy
  rw [stripBy, stripBy, List.cons_append, List.dropWhile_cons_of_neg (by simp [hxp]), ← List.cons_append,
    List.dropWhile_cons_of_neg (by simp [hyp]), List.reverse_append, List.dropWhile_append, hne,
    if_neg Bool.false_ne_true, List.reverse_append, List.reverse_reverse]

theorem head?_stripBy (h : (stripBy p l).head? = some x) : p x = false := by
  have hd : (l.dropWhile p).head? = some x := by
    obtain ⟨t, ht⟩ : stripBy p l <+: l.dropWhile p := List.rdropWhile_prefix p _
    rw [← ht, List.head?_append, h]
    rfl
  have hn := List.head?_dropWhile_not p l
  rw [hd] at hn
  simpa using hn

theorem getLast?_stripBy (h : (stripBy p l).getLast? = some x) : p x = false := by
  have hn := List.head?_dropWhile_not p (l.dropWhile p).reverse
  rw [stripBy, List.getLast?_reverse] at h
  rw [h] at hn
  simpa using hn

theorem mem_of_mem_stripBy (h : x ∈ stripBy p l) : x ∈ l := by
  have h := (List.dropWhile_sublist p).mem (List.mem_reverse.1 h)
  exact (List.dropWhile_sublist p).mem (List.mem_reverse.1 h)

theorem filter_dropWhile {p q : α → Bool} (h : ∀ x, p x = true → q x = false) (l : List α) :
    (l.dropWhile p).filter q = l.filter q := by
  induction l with
  | nil => rfl
  | cons x l ih => by_cases hx : p x = true <;> simp [hx, h, ih]

theorem filter_stripBy {p q : α → Bool} (h : ∀ x, p x = true → q x = false) (l : List α) :
    (stripBy p l).filter q = l.filter q := by
  rw [stripBy, List.filter_reverse, filter_dropWhile h, List.filter_reverse, List.reverse_reverse, filter_dropWhile h]

end Strip

section Blanks

variable {a b s : List Char}

theorem trimEnd_append_blank (hb : ∀ c ∈ b, isBlank c = true) (s : List Char) : trimEnd (s ++ b) = trimEnd s := by
  rw [trimEnd, List.reverse_append, List.dropWhile_append_of_pos fun c hc => hb c (List.mem_reverse.1 hc)]
  rfl

theorem exists_trimEnd_append (s : List Char) : ∃ b, s = trimEnd s ++ b ∧ ∀ c ∈ b, isBlank c = true := by
  refine ⟨(s.reverse.takeWhile isBlank).reverse, ?_, fun c hc => ?_⟩
  · rw [trimEnd, ← List.reverse_append, List.takeWhile_append_dropWhile, List.reverse_reverse]
  · exact List.mem_takeWhile_imp (List.mem_reverse.1 hc)

theorem trimEnd_eq_self (h : ∃ c, s.getLast? = some c ∧ isBlank c = false) : trimEnd s = s := by
  obtain ⟨c, hc, hb⟩ := h
  obtain ⟨t, rfl⟩ := List.getLast?_eq_some_iff.1 hc
  rw [trimEnd, List.reverse_append, List.reverse_singleton, List.singleton_append,
    List.dropWhile_cons_of_neg (by simp [hb]), List.reverse_cons, List.reverse_reverse]

theorem trim_append_blank (hb : ∀ c ∈ b, isBlank c = true) (m : List Char) : trim (m ++ b) = trim m := by
  change trimEnd ((m ++ b).dropWhile isBlank) = trimEnd (m.dropWhile isBlank)
  rw [List.dropWhile_append]
  split
  · next h =>
    rw [List.isEmpty_iff.1 h, List.dropWhile_eq_nil_iff.2 hb]
  · exact trimEnd_append_blank hb _

theorem trim_blank_append (ha : ∀ c ∈ a, isBlank c = true) (m : List Char) : trim (a ++ m) = trim m := by
  rw [trim, stripBy, List.dropWhile_append_of_pos ha]
  rfl

theorem trim_trimEnd (s : List Char) : trim (trimEnd s) = trim s := by
  obtain ⟨b, hs, hb⟩ := exists_trimEnd_append s
  calc trim (trimEnd s) = trim (trimEnd s ++ b) := (trim_append_blank hb _).symm
    _ = trim s := by rw [← hs]

theorem trimEnd_trim (s : List Char) : trimEnd (trim s) = trim s := List.rdropWhile_idempotent isBlank _

theorem exists_append_trim (s : List Char) :
    ∃ a b, (∀ c ∈ a, isBlank c = true) ∧ (∀ c ∈ b, isBlank c = true) ∧ s = a ++ (trim s ++ b) := by
  obtain ⟨b, hs, hb⟩ := exists_trimEnd_append (s.dropWhile isBlank)
  refine ⟨s.takeWhile isBlank, b, fun c hc => List.mem_takeWhile_imp hc, hb, ?_⟩
  have ht : s.takeWhile isBlank ++ s.dropWhile isBlank = s := List.takeWhile_append_dropWhile
  rw [hs] at ht
  exact ht.symm

theorem exists_ends_of_trim (h : trim s = s) (hne : s ≠ []) :
    (∃ c, s.head? = some c ∧ isBlank c = false) ∧ ∃ c, s.getLast? = some c ∧ isBlank c = false := by
  obtain ⟨c, hc⟩ := Option.ne_none_iff_exists'.1 (mt List.head?_eq_none_iff.1 hne)
  obtain ⟨d, hd⟩ := Option.ne_none_iff_exists'.1 (mt List.getLast?_eq_none_iff.1 hne)
  have hf : (stripBy isBlank s).head? = some c := (congrArg List.head? h).trans hc
  have hl : (stripBy isBlank s).getLast? = some d := (congrArg List.getLast? h).trans hd
  exact ⟨⟨c, hc, head?_stripBy hf⟩, ⟨d, hd, getLast?_stripBy hl⟩⟩

theorem all_isBlank_trimEnd (s : List Char) : (trimEnd s).all isBlank = s.all isBlank := by
  obtain ⟨b, hs, hb⟩ := exists_trimEnd_append s
  calc (trimEnd s).all isBlank = (trimEnd s ++ b).all isBlank := by
        rw [List.all_append, List.all_eq_true.2 hb, Bool.and_true]
    _ = s.all isBlank := by rw [← hs]

end Blanks

end ModelForge.Text
