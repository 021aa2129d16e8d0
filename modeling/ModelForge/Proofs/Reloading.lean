import ModelForge.Proofs.SettingsFiles

/-! What becomes of settings that are saved and loaded again, whatever their custom table holds. Saving spreads the table
over the settings, so that a key of it that names a setting takes that setting's place. -/

namespace ModelForge

namespace Settings

variable {s : Settings} {t : FileTree} {p : Path} {overrides table : List (String × Value)}

/-- Overrides that a JSON object can hold, the custom one being an object itself. -/
structure IsDeclared (overrides : List (String × Value)) : Prop where
  json : (Value.object overrides).IsJson
  custom : ∀ v, Entries.find? Setting.custom.key overrides = some v → ∃ table, v = .object table

/-- How settings come back: each as it was, unless the custom table has an entry under its name; and not at all if the table
has an entry of its own name that is no table. -/
def ComesBack (s : Settings) (r : Except LoadError Settings) : Prop :=
  (∃ s', r = .ok s' ∧ ∀ n, n ≠ .custom → s'.get n = (s.custom? n.key).getD (s.get n)) ∨
    ∃ v m, r = .error (.mismatch m) ∧ s.custom? Setting.custom.key = some v ∧ v.table = .error m

/-! What the settings hold. -/

theorem isJson_default (n : Setting) : n.default.IsJson := by
  cases n with
  | indentSize => exact .int (by decide)
  | addComments => exact .bool true
  | escapeKeywords => exact .bool true
  | extraSimpleTypes => exact .list nofun
  | extraCollectionPrefixes => exact .list nofun
  | custom => exact .object List.nodup_nil nofun
  | _ => exact .text _

theorem IsDeclared.givenCustom (h : IsDeclared overrides) :
    ∃ table, givenCustom overrides = .object table ∧ (Value.object table).IsJson := by
  unfold Settings.givenCustom
  cases hc : Entries.find? Setting.custom.key overrides with
  | none => exact ⟨[], rfl, isJson_default .custom⟩
  | some v =>
    obtain ⟨table, rfl⟩ := h.custom v hc
    exact ⟨table, rfl, h.json.entry (Entries.mem_of_find?_eq_some hc)⟩

theorem isJson_strangers (h : (Value.object overrides).IsJson) : (Value.object (strangers overrides)).IsJson :=
  .object (nodup_keys_strangers h.nodup_keys) fun _ he => h.entry (List.mem_filter.1 he).1

/-- Settings whose values are JSON, the custom one an object. -/
structure IsWritable (s : Settings) (table : List (String × Value)) : Prop where
  custom : s.get .custom = .object table
  values : ∀ n, (s.get n).IsJson

theorem IsDeclared.exists_ofMerged (h : IsDeclared overrides) :
    ∃ s table, ofMerged overrides = .ok s ∧ s.IsWritable table := by
  obtain ⟨given, hg, hj⟩ := h.givenCustom
  have hvalue (n : Setting) : ((ofEntries overrides).get n).IsJson := by
    rw [get_ofEntries]
    cases hn : Entries.find? n.key overrides with
    | none => exact isJson_default n
    | some v => exact h.json.entry (Entries.mem_of_find?_eq_some hn)
  by_cases hs : strangers overrides = []
  · exact ⟨_, given, ofMerged_eq_ok_iff.2 (isBuiltFrom_ofEntries hs), hg, hvalue⟩
  · have hbuilt := isBuiltFrom_set hs (hg ▸ Value.table_object given)
    refine ⟨_, Entries.putAll given (strangers overrides), ofMerged_eq_ok_iff.2 hbuilt, rfl, fun n => ?_⟩
    rw [get_set]
    split
    · exact hj.putAll (isJson_strangers h.json)
    · exact hvalue n

/-! The document. -/

section

variable (h : s.IsWritable table)
include h

theorem IsWritable.document_ok : s.document = .ok (Entries.putAll s.ownEntries table) := by
  rw [document, h.custom, Value.table_object]
  rfl

theorem IsWritable.isJson_custom : (Value.object table).IsJson := h.custom ▸ h.values .custom

theorem IsWritable.isJson_document : (Value.object (Entries.putAll s.ownEntries table)).IsJson := by
  refine Value.IsJson.putAll (.object s.nodup_keys_ownEntries fun e he => ?_) h.isJson_custom
  obtain ⟨n, -, rfl⟩ := List.mem_map.1 he
  exact h.values n

theorem IsWritable.custom?_eq (k : String) : s.custom? k = Entries.find? k table := by
  simp only [custom?, h.custom]

theorem IsWritable.find?_document {n : Setting} (hn : n ≠ .custom) :
    Entries.find? n.key (Entries.putAll s.ownEntries table) = some ((s.custom? n.key).getD (s.get n)) := by
  have hown : Entries.find? n.key s.ownEntries = some (s.get n) :=
    Entries.find?_eq_some_of_mem s.nodup_keys_ownEntries (s.mem_ownEntries hn)
  rw [Entries.find?_putAll h.isJson_custom.nodup_keys, hown, h.custom?_eq]
  cases Entries.find? n.key table <;> rfl

theorem IsWritable.find?_custom_document :
    Entries.find? Setting.custom.key (Entries.putAll s.ownEntries table) = s.custom? Setting.custom.key := by
  have hown : Entries.find? Setting.custom.key s.ownEntries = none := by
    rw [Entries.find?_eq_none_iff, mem_keys_ownEntries]
    rintro ⟨n, hn, hk⟩
    exact hn (Setting.key_injective hk).symm
  rw [Entries.find?_putAll h.isJson_custom.nodup_keys, hown, Option.or_none, h.custom?_eq]

theorem IsWritable.holdsObject {levels : Nat} (hd : ∀ n, (s.get n).depth < levels) (ht : t.isOpenable p = true)
    (hj : isJsonFile p = true) :
    HoldsObject (withDocument t p (Entries.putAll s.ownEntries table)) p (Entries.putAll s.ownEntries table) levels := by
  have hr := Json.roundTrips_of_isJson h.isJson_document
  refine ⟨_, ⟨hj, _, find_withDocument ht _, rfl⟩, ?_⟩
  rw [String.toList_ofList, Text.unifyLineEnds_of_not_mem (hr.noReturn 0)]
  exact Json.isDocument_of_read (hr.read_write (depth_document_le h.custom (fun _ => Entries.mem_of_mem_putAll) hd))

theorem IsWritable.comesBack : s.ComesBack ((ofMerged (Entries.putAll s.ownEntries table)).mapError .mismatch) := by
  cases hm : ofMerged (Entries.putAll s.ownEntries table) with
  | ok s' =>
    refine .inl ⟨s', rfl, fun n hn => ?_⟩
    rw [(ofMerged_eq_ok_iff.1 hm).setting n hn, h.find?_document hn, Option.getD_some]
  | error m =>
    -- Only what the document has under the key of the custom table can be wrong, and that is an entry of the table.
    obtain ⟨-, hg⟩ := ofMerged_eq_error_iff.1 hm
    rw [givenCustom, h.find?_custom_document] at hg
    cases hc : s.custom? Setting.custom.key with
    | none =>
      rw [hc] at hg
      cases hg
    | some v =>
      rw [hc] at hg
      exact .inr ⟨v, m, rfl, hc, hg⟩

theorem IsWritable.exists_save {file : String} (hfile : ".json".toList <:+ file.toList)
    (ht : t.isOpenable (.ofText file) = true) (language : String) {room levels : Nat} (hl : room < 2 * levels)
    (hroom : s.IsCopyable room) :
    ∃ after, s.save t (.ofText file) room = .ok after ∧ load after language [] (some file) levels =
      if (Path.ofText file).name = ".json" then .error (.config (.notJson (.ofText file)))
      else (ofMerged (Entries.putAll s.ownEntries table)).mapError .mismatch := by
  have hne := ne_empty_of_isSuffix hfile
  refine ⟨withDocument t (.ofText file) (Entries.putAll s.ownEntries table), save_of_document hroom h.document_ok ht, ?_⟩
  split
  · next hname =>
    have hj : isJsonFile (.ofText file) = false := Bool.eq_false_iff.2 fun e => (isJsonFile_iff hfile).1 e hname
    exact load_of_isRefused hne (.notJson (find_withDocument ht _) hj) language
  · next hname =>
    have hd := depth_lt_of_isCopyable hroom hl
    exact load_of_holdsObject hne (h.holdsObject hd ht ((isJsonFile_iff hfile).2 hname)) language

end

/-- Nothing is saved of settings that are nested too deep to be copied. -/
theorem comesBack_of_save (h : IsDeclared overrides) {file : String} (hfile : ".json".toList <:+ file.toList)
    (ht : t.isOpenable (.ofText file) = true) (language language' : String) {room levels : Nat} (hl : room < 2 * levels) :
    ∃ s, load t language overrides none = .ok s ∧
      (s.IsCopyable room → ∃ after, s.save t (.ofText file) room = .ok after ∧
        if (Path.ofText file).name = ".json" then
          load after language' [] (some file) levels = .error (.config (.notJson (.ofText file)))
        else s.ComesBack (load after language' [] (some file) levels)) ∧
      (¬s.IsCopyable room → s.save t (.ofText file) room = .error (.mismatch .tooDeep)) := by
  obtain ⟨s, table, hs, hw⟩ := h.exists_ofMerged
  refine ⟨s, ?_, fun hroom => ?_, fun hroom => save_of_not_isCopyable hroom t _⟩
  · rw [load_overrides h.json.nodup_keys, hs]
    rfl
  · obtain ⟨after, hsave, hload⟩ := hw.exists_save hfile ht language' hl hroom
    refine ⟨after, hsave, ?_⟩
    rw [hload]
    split
    · rfl
    · exact hw.comesBack

/-- A decimal in the custom table, and an entry under the name of a setting. -/
theorem comesBack_of_save_shadowed :
    let table : List (String × Value) := [("ratio", .decimal true (.finite 15 (-1))), ("add_comments", .bool false)]
    let overrides : List (String × Value) := [("indent_size", .int 2), ("custom", .object table)]
    let t : FileTree := ⟨[], []⟩
    IsDeclared overrides ∧ ".json".toList <:+ "team.json".toList ∧ t.isOpenable (.ofText "team.json") = true ∧
      maxCalls < 2 * Json.maxLevels ∧
      ∃ s after s', load t "csharp" overrides none = .ok s ∧ s.IsCopyable maxCalls ∧
        s.save t (.ofText "team.json") = .ok after ∧ load after "csharp" [] (some "team.json") = .ok s' ∧
        s'.get .indentSize = .int 2 ∧ s.get .addComments = .bool true ∧ s'.get .addComments = .bool false := by
  intro table overrides t
  have htable : (Value.object table).IsJson := by
    refine .object (by decide) fun e he => ?_
    simp only [table, List.mem_cons, List.not_mem_nil, or_false] at he
    rcases he with rfl | rfl
    · exact .decimal (.finite true (.inr (by decide)) (by decide +kernel))
    · exact .bool false
  have hdeclared : IsDeclared overrides := by
    refine ⟨.object (by decide) fun e he => ?_, fun v hv => ⟨table, (Option.some.inj hv).symm⟩⟩
    simp only [overrides, List.mem_cons, List.not_mem_nil, or_false] at he
    rcases he with rfl | rfl
    · exact .int (by decide)
    · exact htable
  have hfile : ".json".toList <:+ "team.json".toList := ⟨['t', 'e', 'a', 'm'], by decide +kernel⟩
  have ht : t.isOpenable (.ofText "team.json") = true := by decide +kernel
  have hl : maxCalls < 2 * Json.maxLevels := by decide
  obtain ⟨s, hs, hcopied, -⟩ := comesBack_of_save hdeclared hfile ht "csharp" "csharp" hl
  obtain rfl : ofEntries overrides = s := by
    rw [load_overrides (by decide), ofMerged_eq_ok_iff.2 (isBuiltFrom_ofEntries (by rfl))] at hs
    exact Except.ok.inj hs
  have hroom : (ofEntries overrides).IsCopyable maxCalls := fun n => by cases n <;> decide
  obtain ⟨after, hsave, hback⟩ := hcopied hroom
  rw [if_neg (by decide +kernel)] at hback
  rcases hback with ⟨s', hload, hget⟩ | ⟨v, m, -, hv, -⟩
  · exact ⟨hdeclared, hfile, ht, hl, _, after, s', hs, hroom, hsave, hload, hget .indentSize nofun, rfl,
      hget .addComments nofun⟩
  · cases hv

/-- A custom entry that takes the place of the indent size. -/
theorem indentSize_not_kept :
    let overrides : List (String × Value) := [("custom", .object [("indent_size", .int 8)])]
    let t : FileTree := ⟨[], []⟩
    IsDeclared overrides ∧ ∃ s after s', load t "csharp" overrides none = .ok s ∧
      s.save t (.ofText "c.json") = .ok after ∧ load after "csharp" [] (some "c.json") = .ok s' ∧
      s.get .indentSize = .int 4 ∧ s'.get .indentSize = .int 8 := by
  intro overrides t
  have hdeclared : IsDeclared overrides := by
    refine ⟨.object (by decide) fun e he => ?_, fun v hv => ⟨_, (Option.some.inj hv).symm⟩⟩
    rw [List.mem_singleton.1 he]
    refine .object (by decide) fun e he => ?_
    rw [List.mem_singleton.1 he]
    exact .int (by decide)
  obtain ⟨s, table, hs, hw⟩ := hdeclared.exists_ofMerged
  have hload' : load t "csharp" overrides none = .ok s := by
    rw [load_overrides (by decide), hs]
    rfl
  obtain rfl : ofEntries overrides = s := by
    rw [ofMerged_eq_ok_iff.2 (isBuiltFrom_ofEntries (by rfl))] at hs
    exact Except.ok.inj hs
  have hroom : (ofEntries overrides).IsCopyable maxCalls := fun n => by cases n <;> decide
  have hl : maxCalls < 2 * Json.maxLevels := by decide
  have hfile : ".json".toList <:+ "c.json".toList := ⟨['c'], by decide +kernel⟩
  obtain ⟨after, hsave, hload⟩ := hw.exists_save hfile (t := t) (by decide +kernel) "csharp" hl hroom
  rw [if_neg (by decide +kernel)] at hload
  rcases hw.comesBack with ⟨s', hback, hget⟩ | ⟨v, m, -, hv, -⟩
  · exact ⟨hdeclared, _, after, s', hload', hsave, hload.trans hback, rfl, hget .indentSize nofun⟩
  · cases hv

end Settings

end ModelForge
