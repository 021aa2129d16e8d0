import ModelForge.Proofs.Generation
import ModelForge.Proofs.Text.Stripping

/-! Which types a classifier takes for simple, told by what their texts look like. A bare name can be written alone, with a
mark of nullability or with arguments; normalizing a text gives the one name that it is a way to write. -/

namespace ModelForge.DeclaredType

open Text (isBlank trim trimEnd)

def Blanks (s : List Char) : Prop := ∀ c ∈ s, isBlank c = true

/-- A name as it stands behind no mark and before no arguments, without blanks around it. -/
structure IsBare (b : List Char) : Prop where
  solid : trim b = b
  unmarked : b.getLast? ≠ some '?'
  plain : '<' ∉ b

/-- The ways to write a type by its bare name. Nothing is asked of the text that follows the start of its arguments. -/
inductive Spells (b : List Char) : List Char → Prop where
  | plain {front back : List Char} (hf : Blanks front) (hb : Blanks back) : Spells b (front ++ (b ++ back))
  | nullable {front gap back : List Char} (hf : Blanks front) (hg : Blanks gap) (hb : Blanks back) :
      Spells b (front ++ (b ++ (gap ++ '?' :: back)))
  | generic {front : List Char} (hf : Blanks front) (rest : List Char) : Spells b (front ++ (b ++ '<' :: rest))

section Normalizing

variable {b s gap : List Char}

theorem takeWhile_append_arguments (h : '<' ∉ b) (rest : List Char) : (b ++ '<' :: rest).takeWhile (· ≠ '<') = b := by
  have hp : ∀ c ∈ b, decide (c ≠ '<') = true := fun c hc => decide_eq_true fun he => h (he ▸ hc)
  rw [List.takeWhile_append_of_pos hp, List.takeWhile_cons_of_neg (by simp), List.append_nil]

theorem eq_or_exists_arguments (s : List Char) :
    s = s.takeWhile (· ≠ '<') ∨ ∃ rest, s = s.takeWhile (· ≠ '<') ++ '<' :: rest := by
  have hs := List.takeWhile_append_dropWhile (p := (· ≠ '<')) (l := s)
  have hn := List.head?_dropWhile_not (· ≠ '<') s
  cases hd : s.dropWhile (· ≠ '<') with
  | nil =>
    rw [hd, List.append_nil] at hs
    exact .inl hs.symm
  | cons c rest =>
    rw [hd] at hs hn
    have hc : c = '<' := by simpa using hn
    subst hc
    exact .inr ⟨rest, hs.symm⟩

theorem dropNullable_of_unmarked (h : s.getLast? ≠ some '?') : dropNullable s = s := if_neg h

theorem dropNullable_marked (s : List Char) : dropNullable (s ++ ['?']) = trimEnd s := by
  rw [dropNullable, List.getLast?_concat, if_pos rfl, List.dropLast_concat]

theorem dropNullable_trim_marked (hb : trim b = b) (hg : Blanks gap) : dropNullable (trim (b ++ (gap ++ ['?']))) = b := by
  by_cases hn : b = []
  · subst hn
    rw [List.nil_append, Text.trim_blank_append hg]
    decide
  · obtain ⟨⟨c, hc, hcb⟩, -⟩ := Text.exists_ends_of_trim hb hn
    have ht : trim (b ++ (gap ++ ['?'])) = b ++ (gap ++ ['?']) :=
      Text.stripBy_eq_self ⟨c, by rw [List.head?_append, hc]; rfl, hcb⟩ ⟨'?', by simp, by decide⟩
    have he : trimEnd b = b := by
      rw [← hb]
      exact Text.trimEnd_trim b
    rw [ht, ← List.append_assoc, dropNullable_marked, Text.trimEnd_append_blank hg, he]

theorem prefix_dropNullable (h : b ++ ['<'] <+: s) : b ++ ['<'] <+: dropNullable s := by
  by_cases hl : s.getLast? = some '?'
  · obtain ⟨u, rfl⟩ := List.getLast?_eq_some_iff.1 hl
    rw [dropNullable_marked]
    have hu : b ++ ['<'] <+: u := by
      rcases List.prefix_concat_iff.1 h with he | hu
      · have hq := congrArg List.getLast? he
        rw [List.getLast?_concat, List.getLast?_concat] at hq
        cases hq
      · exact hu
    obtain ⟨rest, rfl⟩ := hu
    exact Text.prefix_rdropWhile ⟨'<', List.getLast?_concat .., by decide⟩ rest
  · rwa [dropNullable_of_unmarked hl]

theorem spells_normalizeChars (s : List Char) : Spells (normalizeChars s) s := by
  obtain ⟨front, back, hf, hb, hs⟩ := Text.exists_append_trim s
  have hn : normalizeChars s = (dropNullable (trim s)).takeWhile (· ≠ '<') := rfl
  rw [hn]
  by_cases hl : (trim s).getLast? = some '?'
  · obtain ⟨u, hu⟩ := List.getLast?_eq_some_iff.1 hl
    obtain ⟨gap, hgap, hblank⟩ := Text.exists_trimEnd_append u
    rw [hu] at hs ⊢
    rw [dropNullable_marked]
    have hsu : s = front ++ (trimEnd u ++ (gap ++ '?' :: back)) := by
      rw [hs]
      conv_lhs => rw [hgap]
      simp only [List.append_assoc, List.singleton_append]
    rcases eq_or_exists_arguments (trimEnd u) with he | ⟨rest, he⟩
    · rw [← he, hsu]
      exact .nullable hf hblank hb
    · rw [hsu]
      conv_rhs => rw [he]
      rw [List.append_assoc]
      exact .generic hf _
  · rw [dropNullable_of_unmarked hl]
    rcases eq_or_exists_arguments (trim s) with he | ⟨rest, he⟩
    · rw [← he]
      conv_rhs => rw [hs]
      exact .plain hf hb
    · conv_rhs => rw [hs, he]
      rw [List.append_assoc]
      exact .generic hf _

theorem normalizeChars_of_spells (hb : IsBare b) (h : Spells b s) : normalizeChars s = b := by
  have hp : b.takeWhile (· ≠ '<') = b :=
    List.takeWhile_eq_self_iff.2 fun c hc => decide_eq_true fun he => hb.plain (he ▸ hc)
  cases h with
  | plain hf hback =>
    rw [normalizeChars, Text.trim_blank_append hf, Text.trim_append_blank hback, hb.solid, dropNullable_of_unmarked hb.unmarked,
      hp]
  | @nullable front gap back hf hg hback =>
    have hs : b ++ (gap ++ '?' :: back) = b ++ (gap ++ ['?']) ++ back := by simp
    rw [normalizeChars, Text.trim_blank_append hf, hs, Text.trim_append_blank hback, dropNullable_trim_marked hb.solid hg, hp]
  | @generic front hf rest =>
    have hs : b ++ '<' :: rest = b ++ ['<'] ++ rest := by simp
    have ht : b ++ ['<'] <+: trim (b ++ ['<'] ++ rest) := by
      refine Text.prefix_stripBy ?_ ⟨'<', List.getLast?_concat .., by decide⟩ rest
      by_cases hn : b = []
      · exact ⟨'<', by rw [hn]; rfl, by decide⟩
      · obtain ⟨⟨c, hc, hcb⟩, -⟩ := Text.exists_ends_of_trim hb.solid hn
        exact ⟨c, by rw [List.head?_append, hc]; rfl, hcb⟩
    obtain ⟨tail, htail⟩ := prefix_dropNullable ht
    rw [normalizeChars, Text.trim_blank_append hf, hs, ← htail, List.append_assoc]
    exact takeWhile_append_arguments hb.plain tail

end Normalizing

section Classifying

variable {c d : Classifier} {types starts : List String} {t : String}

theorem blank_eq_true_iff : Text.blank t = true ↔ Blanks t.toList := List.all_eq_true

theorem normalize_eq_iff {b : String} : normalize t = b ↔ normalizeChars t.toList = b.toList := by
  rw [normalize, ← String.toList_inj, String.toList_ofList]

theorem Classifier.isDecided_iff : c.isDecided t = true ↔
    Blanks t.toList ∨ normalize t ∈ c.simpleTypes ∨ ∃ p ∈ c.sequenceBeginnings, p.toList <+: t.toList := by
  simp only [isDecided, Bool.or_eq_true, blank_eq_true_iff, List.contains_iff_mem, List.any_eq_true,
    List.isPrefixOf_iff_prefix, or_assoc]

theorem Classifier.classify_eq_simple_iff : c.classify t = .simple ↔
    c.isDecided t = true ∨ c.arrayEnding.toList <:+ t.toList := by
  rw [classify, ← List.isSuffixOf_iff_suffix, ← Bool.or_eq_true]
  cases c.isDecided t || c.arrayEnding.toList.isSuffixOf t.toList <;> simp

theorem Classifier.classify_eq_composite_iff : c.classify t = .composite ↔ ¬ c.classify t = .simple := by
  cases c.classify t <;> decide

theorem Classifier.classify_mono (hs : c.simpleTypes ⊆ d.simpleTypes) (hb : c.sequenceBeginnings ⊆ d.sequenceBeginnings)
    (ha : c.arrayEnding = d.arrayEnding) (h : c.classify t = .simple) : d.classify t = .simple := by
  rw [classify_eq_simple_iff, isDecided_iff] at h ⊢
  rcases h with (h | h | ⟨p, hp, h⟩) | h
  · exact .inl (.inl h)
  · exact .inl (.inr (.inl (hs h)))
  · exact .inl (.inr (.inr ⟨p, hb hp, h⟩))
  · exact .inr (ha ▸ h)

theorem isBare_of_mem_builtins {b : String} (h : b ∈ builtins) : IsBare b.toList := by
  have hall : ∀ b ∈ builtins, trim b.toList = b.toList ∧ b.toList.getLast? ≠ some '?' ∧ '<' ∉ b.toList := by decide +kernel
  obtain ⟨hs, hu, hp⟩ := hall b h
  exact ⟨hs, hu, hp⟩

/-- The texts of simple types. Sequences and arrays are told by the whole text, so that a blank before or behind hides
them. -/
inductive IsSimple (types starts : List String) (t : String) : Prop where
  | blank (h : Blanks t.toList)
  | sequence {p : String} (hp : p ∈ sequencePrefixes ++ starts) (h : p.toList <+: t.toList)
  | array (h : arraySuffix.toList <:+ t.toList)
  | named {b : String} (hb : b ∈ builtins ++ types) (h : Spells b.toList t.toList)

theorem isSimple_iff (h : ∀ x ∈ types, IsBare x.toList) :
    (Classifier.extended types starts).classify t = .simple ↔ IsSimple types starts t := by
  rw [Classifier.classify_eq_simple_iff, Classifier.isDecided_iff]
  constructor
  · rintro ((hb | hn | ⟨p, hp, hpre⟩) | ha)
    · exact .blank hb
    · refine .named hn ?_
      rw [normalize, String.toList_ofList]
      exact spells_normalizeChars t.toList
    · exact .sequence hp hpre
    · exact .array ha
  · intro hs
    cases hs with
    | blank hb => exact .inl (.inl hb)
    | sequence hp hpre => exact .inl (.inr (.inr ⟨_, hp, hpre⟩))
    | array ha => exact .inr ha
    | @named b hb hspells =>
      have hbare : IsBare b.toList := (List.mem_append.1 hb).elim isBare_of_mem_builtins (h b)
      have hn : normalize t = b := normalize_eq_iff.2 (normalizeChars_of_spells hbare hspells)
      exact .inl (.inr (.inl (hn ▸ hb)))

/-- With further names and sequences a classifier takes for simple just the texts of their grammar. Further names and
sequences only make simple what is composite without them, and with none of them the classifier is the default one. -/
theorem Classifier.classify_exact (starts : List String) (h : ∀ x ∈ types, IsBare x.toList) :
    ∃ c, ofValues (.list (types.map .text)) (.list (starts.map .text)) = .ok c ∧
      (∀ t, c.refusal (some t) = none ∧ (c.classify t = .simple ↔ IsSimple types starts t)) ∧
      (∀ types' starts' c', types ⊆ types' → starts ⊆ starts' →
        ofValues (.list (types'.map .text)) (.list (starts'.map .text)) = .ok c' →
        ∀ t, c.classify t ≠ c'.classify t → c.classify t = .composite ∧ c'.classify t = .simple) ∧
      (types = [] → starts = [] → ∀ t, c.classify t = default.classify t) := by
  refine ⟨extended types starts, ofValues_texts types starts, fun t => ⟨refusal_of_sound rfl _, isSimple_iff h⟩, ?_, ?_⟩
  · intro types' starts' c' htypes hstarts hc' t hne
    cases (ofValues_texts types' starts').symm.trans hc'
    have hmore {front a b : List String} (h : a ⊆ b) : front ++ a ⊆ front ++ b :=
      List.append_subset.2 ⟨List.subset_append_left .., List.subset_append_of_subset_right _ h⟩
    have hmono : (extended types starts).classify t = .simple → (extended types' starts').classify t = .simple :=
      classify_mono (hmore htypes) (hmore hstarts) rfl
    cases hl : (extended types starts).classify t with
    | simple => exact absurd (hl.trans (hmono hl).symm) hne
    | composite =>
      cases hr : (extended types' starts').classify t with
      | simple => exact ⟨rfl, rfl⟩
      | composite => exact absurd (hl.trans hr.symm) hne
  · rintro rfl rfl t
    rfl

/-- An amount with a mark and with arguments that never end, and a sequence that a blank hides. -/
theorem Classifier.classify_exact_amount :
    (∀ x ∈ ["Money"], IsBare x.toList) ∧
    ∃ c, ofValues (.list (["Money"].map .text)) (.list (["ICollection<"].map .text)) = .ok c ∧
      c.classify "Money\u2003? " = .simple ∧ c.classify " Money<Euro" = .simple ∧
      default.classify " Money<Euro" = .composite ∧ c.classify "ICollection<Order>" = .simple ∧
      c.classify " ICollection<Order>" = .composite := by
  have h : ∀ x ∈ ["Money"], IsBare x.toList := by
    intro x hx
    rw [List.mem_singleton.1 hx]
    exact ⟨by decide +kernel, by decide +kernel, by decide +kernel⟩
  obtain ⟨c, hc, hs, -, -⟩ := classify_exact ["ICollection<"] h
  have hmember : "Money" ∈ builtins ++ ["Money"] := by decide
  have hmarked : Spells "Money".toList "Money\u2003? ".toList :=
    @Spells.nullable _ [] ['\u2003'] [' '] (List.forall_mem_nil _) (by simp [Blanks, isBlank]) (by simp [Blanks, isBlank])
  have harguments : Spells "Money".toList " Money<Euro".toList :=
    @Spells.generic _ [' '] (by simp [Blanks, isBlank]) "Euro".toList
  have hsequence : "ICollection<".toList <+: "ICollection<Order>".toList := ⟨"Order>".toList, rfl⟩
  refine ⟨h, c, hc, (hs _).2.2 (.named hmember hmarked), (hs _).2.2 (.named hmember harguments), by decide +kernel,
    (hs _).2.2 (.sequence (by decide) hsequence), ?_⟩
  cases (ofValues_texts _ _).symm.trans hc
  decide +kernel

end Classifying

end ModelForge.DeclaredType
