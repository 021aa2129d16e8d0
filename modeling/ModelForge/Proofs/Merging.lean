import ModelForge.Proofs.Precedence

/-! The defaults of a language are the defaults of the settings, so that merging over them does not depend on the language,
and the settings follow from what the merged tables say. -/

namespace ModelForge.Settings

variable {s : Settings} {entries news table : List (String × Value)}

def givenCustom (entries : List (String × Value)) : Value := (Entries.find? Setting.custom.key entries).getD (.object [])

/-- Every setting is as given, or else as its default; entries that name no setting are put over the custom table. -/
structure IsBuiltFrom (entries : List (String × Value)) (s : Settings) : Prop where
  setting : ∀ n, n ≠ .custom → s.get n = (Entries.find? n.key entries).getD n.default
  custom : if strangers entries = [] then s.get .custom = givenCustom entries
    else ∃ table, (givenCustom entries).table = .ok table ∧
      s.get .custom = .object (Entries.putAll table (strangers entries))

theorem get_custom_ofEntries (entries : List (String × Value)) :
    (ofEntries entries).get .custom = givenCustom entries := rfl

theorem isBuiltFrom_ofEntries (h : strangers entries = []) : IsBuiltFrom entries (ofEntries entries) :=
  ⟨fun _ _ => rfl, by rw [if_pos h, get_custom_ofEntries]⟩

theorem isBuiltFrom_set (h : strangers entries ≠ []) (ht : (givenCustom entries).table = .ok table) :
    IsBuiltFrom entries ((ofEntries entries).set .custom (.object (Entries.putAll table (strangers entries)))) := by
  refine ⟨fun n hn => ?_, ?_⟩
  · rw [get_set, if_neg hn, get_ofEntries]
  · rw [if_neg h, get_set, if_pos rfl]
    exact ⟨table, ht, rfl⟩

theorem IsBuiltFrom.eq {s' : Settings} (h : IsBuiltFrom entries s) (h' : IsBuiltFrom entries s') : s = s' := by
  refine eq_of_get fun n => ?_
  by_cases hn : n = .custom
  · have hc := h.custom
    have hc' := h'.custom
    rw [hn]
    split at hc
    · next hs =>
      rw [if_pos hs] at hc'
      rw [hc, hc']
    · next hs =>
      rw [if_neg hs] at hc'
      obtain ⟨table, ht, hg⟩ := hc
      obtain ⟨table', ht', hg'⟩ := hc'
      rw [hg, hg', Except.ok.inj (ht.symm.trans ht')]
  · rw [h.setting n hn, h'.setting n hn]

theorem ofMerged_eq_error_iff {m : Mismatch} :
    ofMerged entries = .error m ↔ strangers entries ≠ [] ∧ (givenCustom entries).table = .error m := by
  rcases ofMerged_cases entries with ⟨hs, ho⟩ | ⟨hs, ho⟩
  · rw [ho]
    exact ⟨nofun, fun h => absurd hs h.1⟩
  · rw [ho, get_custom_ofEntries]
    cases (givenCustom entries).table with
    | error m' => simp [hs, Except.map]
    | ok table => exact ⟨nofun, nofun⟩

theorem ofMerged_eq_ok_iff : ofMerged entries = .ok s ↔ IsBuiltFrom entries s := by
  rcases ofMerged_cases entries with ⟨hs, ho⟩ | ⟨hs, ho⟩
  · rw [ho, Except.ok.injEq]
    exact ⟨fun h => h ▸ isBuiltFrom_ofEntries hs, (isBuiltFrom_ofEntries hs).eq⟩
  · rw [ho, get_custom_ofEntries]
    cases ht : (givenCustom entries).table with
    | error m =>
      refine ⟨nofun, fun h => ?_⟩
      have hc := h.custom
      rw [if_neg hs, ht] at hc
      obtain ⟨_, ⟨⟩, -⟩ := hc
    | ok table =>
      have hb := isBuiltFrom_set hs ht
      exact ⟨fun h => Except.ok.inj h ▸ hb, fun h => congrArg Except.ok (hb.eq h)⟩

theorem getD_find?_defaultEntries (language : String) (n : Setting) :
    (Entries.find? n.key (defaultEntries language)).getD n.default = n.default := by
  cases hf : Entries.find? n.key (defaultEntries language) with
  | none => rfl
  | some v =>
    obtain ⟨m, -, he⟩ := exists_of_mem_defaultEntries (Entries.mem_of_find?_eq_some hf)
    cases Setting.key_injective (congrArg Prod.fst he)
    exact congrArg Prod.snd he

theorem ofEntries_putAll_defaultEntries (language : String) (news : List (String × Value)) :
    ofEntries (Entries.putAll (defaultEntries language) news) = ofEntries (Entries.putAll [] news) := by
  refine eq_of_get fun n => ?_
  rw [get_ofEntries, get_ofEntries, Entries.find?_putAll_reverse, Entries.find?_putAll_reverse, Option.getD_or,
    getD_find?_defaultEntries, Option.getD_or]
  rfl

theorem ofMerged_putAll_defaultEntries (language : String) (news : List (String × Value)) :
    ofMerged (Entries.putAll (defaultEntries language) news) = ofMerged (Entries.putAll [] news) := by
  have hs (table : List (String × Value)) : strangers (Entries.putAll table news) =
      Entries.putAll (strangers table) (strangers news) :=
    Entries.filter_putAll (fun k => (Setting.ofKey? k).isNone) table news
  -- Every default names a setting.
  rw [ofMerged, ofMerged, ofEntries_putAll_defaultEntries, hs, hs, strangers_defaultEntries]
  rfl

theorem merge_eq (language : String) (file overrides : List (String × Value)) :
    merge language file overrides = ofMerged (Entries.putAll [] (file ++ overrides)) := by
  rw [← ofMerged_putAll_defaultEntries language, Entries.putAll, List.foldl_append]
  rfl

theorem ofMerged_putAll_nil (h : (Entries.keys news).Nodup) : ofMerged (Entries.putAll [] news) = ofMerged news := by
  rw [Entries.putAll_of_nodup (by rwa [List.nil_append]), List.nil_append]

theorem load_overrides (h : (Entries.keys entries).Nodup) (t : FileTree) (language : String) {levels : Nat} :
    load t language entries none levels = (ofMerged entries).mapError .mismatch := by
  have hm : merge language [] entries = ofMerged entries := by rw [merge_eq, List.nil_append, ofMerged_putAll_nil h]
  rw [← hm]
  rfl

end ModelForge.Settings
