import ModelForge.CSharp.Generator
import ModelForge.Proofs.Source.Lines

/-! Names that are emitted in one piece, and namespaces put together from such names. -/

namespace ModelForge

namespace Identifier

def isNameChar (c : Char) : Bool := c = '@' || isLetterOrDigit c

/-- A name in one piece, as far as emitting it goes. -/
structure IsName (s : String) : Prop where
  ne_nil : s.toList ≠ []
  all : ∀ c ∈ s.toList, isNameChar c = true

theorem isBlank_of_isNameChar {c : Char} (h : isNameChar c = true) : Text.isBlank c = false := by
  have hn : c.toNat = 64 ∨ (65 ≤ c.toNat ∧ c.toNat ≤ 90) ∨ (97 ≤ c.toNat ∧ c.toNat ≤ 122) ∨ c.toNat = 95 ∨
      (48 ≤ c.toNat ∧ c.toNat ≤ 57) := by
    simp only [isNameChar, isLetterOrDigit, isLetter, Bool.or_eq_true, Bool.and_eq_true, decide_eq_true_eq,
      Char.le_def, UInt32.le_iff_toNat_le] at h
    rcases h with h | ((h | h) | h) | h
    · subst h; exact .inl rfl
    · exact .inr (.inl h)
    · exact .inr (.inr (.inl h))
    · subst h; exact .inr (.inr (.inr (.inl rfl)))
    · exact .inr (.inr (.inr (.inr h)))
  simp only [Text.isBlank, Bool.or_eq_false_iff, Bool.and_eq_false_iff, decide_eq_false_iff_not, beq_eq_false_iff_ne]
  omega

theorem isNameChar_of_isLetterOrDigit {c : Char} (h : isLetterOrDigit c = true) : isNameChar c = true := by
  simp [isNameChar, h]

theorem all_isLetterOrDigit_of_isWord {s : List Char} (h : isWord s = true) : ∀ c ∈ s, isLetterOrDigit c = true := by
  cases s with
  | nil => cases h
  | cons a s =>
    simp only [isWord, Bool.and_eq_true, List.all_eq_true] at h
    intro c hc
    rcases List.mem_cons.1 hc with rfl | hc
    · simp [isLetterOrDigit, h.1]
    · exact h.2 c hc

namespace IsName

variable {s t : String}

theorem of_isFull (h : isFull s.toList = true) : IsName s := by
  have hw : s.toList ≠ [] ∧ ∀ c ∈ s.toList, isNameChar c = true := by
    generalize s.toList = cs at h
    unfold isFull at h
    split at h
    · next rest =>
      refine ⟨by simp, fun c hc => ?_⟩
      rcases List.mem_cons.1 hc with rfl | hc
      · rfl
      · exact isNameChar_of_isLetterOrDigit (all_isLetterOrDigit_of_isWord h c hc)
    · refine ⟨?_, fun c hc => isNameChar_of_isLetterOrDigit (all_isLetterOrDigit_of_isWord h c hc)⟩
      rintro rfl
      cases h
  exact ⟨hw.1, hw.2⟩

theorem append (h : IsName s) (ht : t.toList.all isLetterOrDigit = true) : IsName (s ++ t) := by
  refine ⟨?_, fun c hc => ?_⟩
  · rw [String.toList_append]
    exact List.append_ne_nil_of_left_ne_nil h.ne_nil _
  · rw [String.toList_append, List.mem_append] at hc
    rcases hc with hc | hc
    · exact h.all c hc
    · exact isNameChar_of_isLetterOrDigit (List.all_eq_true.1 ht c hc)

theorem verbatim (h : IsName s) : IsName (verbatim s) := by
  unfold Identifier.verbatim
  split
  · refine ⟨by simp, fun c hc => ?_⟩
    rw [String.toList_append, List.mem_append] at hc
    rcases hc with hc | hc
    · rw [List.mem_singleton.1 hc]
      rfl
    · exact h.all c hc
  · exact h

theorem blank_not_mem (h : IsName s) : ' ' ∉ s.toList := fun hb => absurd (h.all _ hb) (by decide)

theorem lineFeed_not_mem (h : IsName s) : '\n' ∉ s.toList := fun hb => absurd (h.all _ hb) (by decide)

theorem head_not_blank (h : IsName s) : ∃ c, s.toList.head? = some c ∧ Text.isBlank c = false :=
  ⟨_, List.head?_eq_some_head h.ne_nil, isBlank_of_isNameChar (h.all _ (List.head_mem h.ne_nil))⟩

theorem last_not_blank (h : IsName s) : ∃ c, s.toList.getLast? = some c ∧ Text.isBlank c = false :=
  ⟨_, List.getLast?_eq_some_getLast h.ne_nil, isBlank_of_isNameChar (h.all _ (List.getLast_mem h.ne_nil))⟩

end IsName

/-! No dot at the ends of a text and no two in a row: no piece between dots is empty. -/

section Pieces

variable {s : List Char} (h : ∀ p ∈ Text.cutAt '.' s, p ≠ [])

include h

theorem ne_nil_of_pieces : s ≠ [] := by
  rintro rfl
  exact h [] (List.mem_singleton.2 rfl) rfl

theorem head_of_pieces : ∃ c, s.head? = some c ∧ decide (c = '.') = false := by
  cases s with
  | nil => exact absurd rfl (ne_nil_of_pieces h)
  | cons c s =>
    refine ⟨c, rfl, decide_eq_false ?_⟩
    rintro rfl
    rw [Text.cutAt_cons_self] at h
    exact h [] (List.mem_cons_self ..) rfl

theorem last_of_pieces : ∃ c, s.getLast? = some c ∧ decide (c = '.') = false := by
  have hl := List.getLast?_eq_some_getLast (ne_nil_of_pieces h)
  refine ⟨_, hl, decide_eq_false fun hc => ?_⟩
  obtain ⟨r, rfl⟩ := List.getLast?_eq_some_iff.1 (hc ▸ hl)
  rw [Text.cutAt_append] at h
  exact h [] (List.mem_append_right _ (List.mem_singleton.2 rfl)) rfl

theorem stripBy_dot_of_pieces : Text.stripBy (· = '.') s = s := Text.stripBy_eq_self (head_of_pieces h) (last_of_pieces h)

end Pieces

def isDotted (s : List Char) : Bool := (Text.cutAt '.' s).all isWord

section Dotted

variable {s : List Char} (h : isDotted s = true)

include h

theorem lineFeed_not_mem_of_isDotted : '\n' ∉ s := by
  intro hm
  rw [← Text.joinWith_cutAt '.' s] at hm
  obtain hc | ⟨p, hp, hc⟩ := Text.mem_joinWith hm
  · exact absurd hc (by decide)
  · exact absurd (all_isLetterOrDigit_of_isWord (List.all_eq_true.1 h p hp) _ hc) (by decide)

theorem pieces_ne_nil_of_isDotted : ∀ p ∈ Text.cutAt '.' s, p ≠ [] := by
  rintro p hp rfl
  exact absurd (List.all_eq_true.1 h _ hp) (by decide)

end Dotted

end Identifier

open Identifier (isDotted)

theorem Settings.joinedNamespace_of_pieces {root sub : String} (hr : ∀ p ∈ Text.cutAt '.' root.toList, p ≠ [])
    (hs : ∀ p ∈ Text.cutAt '.' sub.toList, p ≠ []) :
    joinedNamespace (.text root) (.text sub) = .ok (root ++ "." ++ sub) := by
  have hp {t : String} (ht : ∀ p ∈ Text.cutAt '.' t.toList, p ≠ []) : namespacePart (.text t) = .ok [t.toList] := by
    have hn := Identifier.ne_nil_of_pieces ht
    simp [namespacePart, Identifier.stripBy_dot_of_pieces ht, hn]
  have hj : String.ofList (root.toList ++ ['.'] ++ sub.toList) = root ++ "." ++ sub :=
    String.toList_injective (by simp)
  rw [joinedNamespace, hp hr, hp hs, ← hj]
  rfl

theorem Settings.joinedNamespace_of_isDotted {root sub : String} (hr : isDotted root.toList = true)
    (hs : isDotted sub.toList = true) : joinedNamespace (.text root) (.text sub) = .ok (root ++ "." ++ sub) :=
  joinedNamespace_of_pieces (Identifier.pieces_ne_nil_of_isDotted hr) (Identifier.pieces_ne_nil_of_isDotted hs)

theorem CSharp.isName_identifier {s : String} (h : Identifier.IsName s) (settings : Settings) :
    Identifier.IsName (identifier settings s) := by
  unfold identifier
  split
  · exact h.verbatim
  · exact h

end ModelForge
