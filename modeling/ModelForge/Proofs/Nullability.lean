import ModelForge.Proofs.Classification

/-! What a mark of nullability does to the class of a type. The bare name is found behind the mark, and what a text starts
with stays; but arrays are told by the end of the text, and there the mark stands. -/

namespace ModelForge.DeclaredType

variable {c : Classifier} {t : String}

theorem toList_marked (t : String) : (t ++ "?").toList = t.toList ++ ['?'] := String.toList_append

theorem normalize_marked (hs : Text.strip t = t) (hq : t.toList.getLast? ≠ some '?') :
    normalize (t ++ "?") = normalize t := by
  have ht : Text.trim t.toList = t.toList := by
    have hl := congrArg String.toList hs
    rwa [Text.strip, String.toList_ofList] at hl
  have hgap : Blanks [] := List.forall_mem_nil _
  have hm := dropNullable_trim_marked ht hgap
  rw [List.nil_append] at hm
  rw [normalize, normalize, toList_marked, normalizeChars, normalizeChars, hm, ht, dropNullable_of_unmarked hq]

theorem prefix_marked_iff {p : String} : p.toList <+: (t ++ "?").toList ↔ p = t ++ "?" ∨ p.toList <+: t.toList := by
  rw [toList_marked, List.prefix_concat_iff, ← toList_marked, String.toList_inj]

namespace Classifier

/-- The mark makes the text one of the known beginnings, or an array. -/
def KnowsMarked (c : Classifier) (t : String) : Prop :=
  t ++ "?" ∈ c.sequenceBeginnings ∨ c.arrayEnding.toList <:+ (t ++ "?").toList

/-- Only its end shows that the type is simple, and the mark hides that end. -/
structure LosesArray (c : Classifier) (t : String) : Prop where
  undecided : c.isDecided t = false
  array : c.arrayEnding.toList <:+ t.toList
  hidden : ¬ c.KnowsMarked t

/-- Only with its mark the type is simple. -/
structure GainsMarked (c : Classifier) (t : String) : Prop where
  composite : c.classify t = .composite
  known : c.KnowsMarked t

theorem isDecided_marked (hb : Text.blank t = false) (hs : Text.strip t = t) (hq : t.toList.getLast? ≠ some '?') :
    c.isDecided (t ++ "?") = true ↔ c.isDecided t = true ∨ t ++ "?" ∈ c.sequenceBeginnings := by
  have hblank : ¬ Blanks t.toList := by
    rw [← blank_eq_true_iff, hb]
    exact Bool.false_ne_true
  have hmarked : ¬ Blanks (t ++ "?").toList := by
    intro h
    have hmem : '?' ∈ (t ++ "?").toList := by rw [toList_marked]; exact List.mem_concat_self
    exact absurd (h '?' hmem) (by decide)
  rw [isDecided_iff, isDecided_iff, or_iff_right hblank, or_iff_right hmarked, normalize_marked hs hq, or_assoc]
  apply or_congr_right
  constructor
  · rintro ⟨p, hp, h⟩
    rcases prefix_marked_iff.1 h with rfl | h
    · exact .inr hp
    · exact .inl ⟨p, hp, h⟩
  · rintro (⟨p, hp, h⟩ | h)
    · exact ⟨p, hp, prefix_marked_iff.2 (.inr h)⟩
    · exact ⟨_, h, List.prefix_rfl⟩

/-- A mark changes the class of a type in two cases only: it hides the end of an array that nothing else shows to be simple,
or it makes a text that the classifier knows as it stands. -/
theorem classify_marked_ne_iff (c : Classifier) (hb : Text.blank t = false) (hs : Text.strip t = t)
    (hq : t.toList.getLast? ≠ some '?') :
    c.classify (t ++ "?") ≠ c.classify t ↔ c.LosesArray t ∨ c.GainsMarked t := by
  have hplain : c.classify t = .simple ↔ c.isDecided t = true ∨ c.arrayEnding.toList <:+ t.toList := classify_eq_simple_iff
  have hmarked : c.classify (t ++ "?") = .simple ↔ c.isDecided t = true ∨ c.KnowsMarked t := by
    rw [classify_eq_simple_iff, isDecided_marked hb hs hq, or_assoc]
    rfl
  constructor
  · intro hne
    cases hc : c.classify t with
    | simple =>
      have hlost : ¬ (c.isDecided t = true ∨ c.KnowsMarked t) := fun h => hne ((hmarked.2 h).trans hc.symm)
      obtain ⟨hu, hk⟩ := not_or.1 hlost
      exact .inl ⟨Bool.eq_false_iff.2 hu, (hplain.1 hc).resolve_left hu, hk⟩
    | composite =>
      have hgained : c.classify (t ++ "?") = .simple := by
        rw [hc, ne_eq, classify_eq_composite_iff, not_not] at hne
        exact hne
      have hu : ¬ c.isDecided t = true := fun h => classify_eq_composite_iff.1 hc (hplain.2 (.inl h))
      exact .inr ⟨hc, (hmarked.1 hgained).resolve_left hu⟩
  · rintro (h | h) he
    · have hsimple : c.classify (t ++ "?") = .simple := he.trans (hplain.2 (.inr h.array))
      rcases hmarked.1 hsimple with hd | hk
      · exact Bool.false_ne_true (h.undecided.symm.trans hd)
      · exact h.hidden hk
    · exact classify_eq_composite_iff.1 h.composite (he.symm.trans (hmarked.2 (.inr h.known)))

/-- A sequence stays one behind its mark. -/
theorem classify_marked_ne_iff_sequence :
    Text.blank "List<Address>" = false ∧ Text.strip "List<Address>" = "List<Address>" ∧
      "List<Address>".toList.getLast? ≠ some '?' ∧
      default.classify ("List<Address>" ++ "?") = default.classify "List<Address>" := by
  have hb : Text.blank "List<Address>" = false := by decide +kernel
  have hs : Text.strip "List<Address>" = "List<Address>" := by decide +kernel
  have hq : "List<Address>".toList.getLast? ≠ some '?' := by decide +kernel
  have hd : default.isDecided "List<Address>" = true := by decide +kernel
  refine ⟨hb, hs, hq, ?_⟩
  by_contra hne
  rcases (classify_marked_ne_iff default hb hs hq).1 hne with h | h
  · exact Bool.false_ne_true (h.undecided.symm.trans hd)
  · exact classify_eq_composite_iff.1 h.composite (classify_eq_simple_iff.2 (.inl hd))

/-- An array of a composite type is simple, and with a mark it is not. -/
theorem classify_marked_array :
    Text.blank "Address[]" = false ∧ Text.strip "Address[]" = "Address[]" ∧ "Address[]".toList.getLast? ≠ some '?' ∧
      default.classify "Address[]" = .simple ∧ default.classify ("Address[]" ++ "?") = .composite := by
  decide +kernel

end Classifier

end ModelForge.DeclaredType
