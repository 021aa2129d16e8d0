import Mathlib.Data.List.Permutation
import ModelForge.Proofs.Json.Documents
import ModelForge.Proofs.Storage

/-! Where a setting comes from that a file and overrides both give. The overrides win, with one exception: entries that name
no setting are put over the custom table when file and overrides have already been merged, so that such an entry at the top
of the file also wins over the custom table of the overrides. -/

namespace ModelForge

namespace Entries

variable {β : Type}

theorem find?_filter_key (q : String → Bool) (k : String) (table : List (String × β)) :
    find? k (table.filter (q ·.1)) = if q k then find? k table else none := by
  induction table with
  | nil => simp [find?]
  | cons e rest ih =>
    obtain ⟨a, b⟩ := e
    by_cases ha : a = k
    · subst ha
      cases hq : q a <;> simp [hq, find?, ih]
    · cases hq : q a <;> simp [hq, find?, ha, ih]

end Entries

namespace Settings

variable {s : Settings} {entries file overrides table : List (String × Value)} {k : String} {v : Value} {n : Setting}

def custom? (s : Settings) (k : String) : Option Value :=
  match s.get .custom with
  | .object table => Entries.find? k table
  | _ => none

/-- Overrides that give an entry of the custom table once: at the top, or in a custom table of their own. -/
structure GiveOnce (overrides : List (String × Value)) : Prop where
  nodup : (Entries.keys overrides).Nodup
  custom : ∀ v, Entries.find? Setting.custom.key overrides = some v → ∃ table, v = .object table ∧
    ∀ k ∈ Entries.keys table, Setting.ofKey? k = none → k ∉ Entries.keys overrides

/-- What the overrides give is what the settings hold, as far as the file leaves it to them. -/
structure Obeys (s : Settings) (file overrides : List (String × Value)) : Prop where
  setting : ∀ n v, n ≠ .custom → Entries.find? n.key overrides = some v → s.get n = v
  stranger : ∀ k v, Setting.ofKey? k = none → Entries.find? k overrides = some v → s.custom? k = some v
  /-- An entry at the top of the file that names no setting comes before the custom table. -/
  custom : ∀ table k v, Entries.find? Setting.custom.key overrides = some (.object table) → Entries.find? k table = some v →
    s.custom? k = some (if Setting.ofKey? k = none then (Entries.find? k file).getD v else v)

/-! Entries that name no setting. -/

theorem find?_strangers (k : String) (entries : List (String × Value)) :
    Entries.find? k (strangers entries) = if Setting.ofKey? k = none then Entries.find? k entries else none := by
  rw [strangers, Entries.find?_filter_key fun k => (Setting.ofKey? k).isNone]
  simp only [Option.isNone_iff_eq_none]

theorem nodup_keys_strangers (h : (Entries.keys entries).Nodup) : (Entries.keys (strangers entries)).Nodup :=
  h.sublist (List.filter_sublist.map _)

theorem ofMerged_cases (entries : List (String × Value)) :
    strangers entries = [] ∧ ofMerged entries = .ok (ofEntries entries) ∨
      strangers entries ≠ [] ∧ ofMerged entries = ((ofEntries entries).get .custom).table.map fun table =>
        (ofEntries entries).set .custom (.object (Entries.putAll table (strangers entries))) := by
  unfold ofMerged
  by_cases h : strangers entries = []
  · exact .inl ⟨h, if_pos (List.isEmpty_iff.2 h)⟩
  · exact .inr ⟨h, if_neg (mt List.isEmpty_iff.1 h)⟩

theorem custom?_set (h : (Entries.keys entries).Nodup) (s : Settings) (table : List (String × Value)) (k : String) :
    (s.set .custom (.object (Entries.putAll table (strangers entries)))).custom? k =
      (Entries.find? k (strangers entries)).or (Entries.find? k table) :=
  Entries.find?_putAll (nodup_keys_strangers h) k table

structure IsMerged (entries : List (String × Value)) (s : Settings) : Prop where
  setting : ∀ n v, n ≠ .custom → Entries.find? n.key entries = some v → s.get n = v
  stranger : ∀ k v, Setting.ofKey? k = none → Entries.find? k entries = some v → s.custom? k = some v
  custom : ∀ table k, Entries.find? Setting.custom.key entries = some (.object table) →
    s.custom? k = (Entries.find? k (strangers entries)).or (Entries.find? k table)

theorem isMerged_of_ofMerged (hn : (Entries.keys entries).Nodup) (h : ofMerged entries = .ok s) : IsMerged entries s := by
  have hget {n : Setting} {v : Value} (hv : Entries.find? n.key entries = some v) : (ofEntries entries).get n = v := by
    rw [get_ofEntries, hv, Option.getD_some]
  rcases ofMerged_cases entries with ⟨he, ho⟩ | ⟨-, ho⟩
  · obtain rfl := Except.ok.inj (ho.symm.trans h)
    refine ⟨fun n v _ hv => hget hv, fun k v hk hv => ?_, fun table k ht => ?_⟩
    · have hs := find?_strangers k entries
      rw [if_pos hk, he, hv] at hs
      cases hs
    · rw [custom?, hget ht, he]
      rfl
  · rw [ho] at h
    cases ht : ((ofEntries entries).get .custom).table with
    | error m =>
      rw [ht] at h
      cases h
    | ok table =>
      rw [ht] at h
      obtain rfl := Except.ok.inj h
      refine ⟨fun n v hne hv => ?_, fun k v hk hv => ?_, fun inner k hi => ?_⟩
      · rw [get_set, if_neg hne, hget hv]
      · rw [custom?_set hn, find?_strangers, if_pos hk, hv, Option.some_or]
      · rw [hget hi, Value.table_object] at ht
        rw [custom?_set hn, Except.ok.inj ht]

/-! The defaults, a file and overrides, merged. -/

theorem nodup_keys_defaultEntries (language : String) : (Entries.keys (defaultEntries language)).Nodup := by
  unfold defaultEntries
  simp only [languageDefaults, Entries.find?]
  split <;> decide

def mergedEntries (language : String) (file overrides : List (String × Value)) : List (String × Value) :=
  Entries.putAll (Entries.putAll (defaultEntries language) file) overrides

theorem nodup_keys_mergedEntries (language : String) (file overrides : List (String × Value)) :
    (Entries.keys (mergedEntries language file overrides)).Nodup :=
  Entries.nodup_keys_putAll (Entries.nodup_keys_putAll (nodup_keys_defaultEntries language) file) overrides

theorem find?_defaultEntries (language : String) (hk : Setting.ofKey? k = none ∨ k = Setting.custom.key) :
    Entries.find? k (defaultEntries language) = none := by
  rcases hk with hk | rfl
  · have hs := find?_strangers k (defaultEntries language)
    rw [strangers_defaultEntries, if_pos hk] at hs
    exact hs.symm
  · exact find?_custom_defaultEntries language

theorem find?_mergedEntries (hf : (Entries.keys file).Nodup) (ho : (Entries.keys overrides).Nodup) (language : String)
    (hk : Setting.ofKey? k = none ∨ k = Setting.custom.key) :
    Entries.find? k (mergedEntries language file overrides) =
      (Entries.find? k overrides).or (Entries.find? k file) := by
  rw [mergedEntries, Entries.find?_putAll ho, Entries.find?_putAll hf, find?_defaultEntries language hk, Option.or_none]

theorem find?_mergedEntries_of_some (ho : (Entries.keys overrides).Nodup) (hv : Entries.find? k overrides = some v)
    (language : String) (file : List (String × Value)) :
    Entries.find? k (mergedEntries language file overrides) = some v := by
  rw [mergedEntries, Entries.find?_putAll ho, hv, Option.some_or]

theorem obeys_of_merge {language : String} (hf : (Entries.keys file).Nodup) (ho : GiveOnce overrides)
    (h : merge language file overrides = .ok s) : s.Obeys file overrides := by
  have hs : IsMerged (mergedEntries language file overrides) s :=
    isMerged_of_ofMerged (nodup_keys_mergedEntries language file overrides) h
  refine ⟨fun n v hn hv => hs.setting n v hn (find?_mergedEntries_of_some ho.nodup hv language file),
    fun k v hk hv => hs.stranger k v hk (find?_mergedEntries_of_some ho.nodup hv language file), fun table k v ht hv => ?_⟩
  rw [hs.custom table k (find?_mergedEntries_of_some ho.nodup ht language file), find?_strangers, hv]
  split
  · next hk =>
    -- The overrides have the key in their custom table, and therefore not at the top.
    obtain ⟨_, he, honce⟩ := ho.custom _ ht
    cases he
    have hmem : k ∈ Entries.keys table := List.mem_map_of_mem (f := Prod.fst) (Entries.mem_of_find?_eq_some hv)
    have hnone : Entries.find? k overrides = none := Entries.find?_eq_none_iff.2 (honce k hmem hk)
    rw [find?_mergedEntries hf ho.nodup language (.inl hk), hnone, Option.none_or]
    cases Entries.find? k file <;> rfl
  · rfl

/-- Merging goes wrong only where the file has a custom entry that is no table, and the overrides have none. -/
theorem custom_of_merge_error {language : String} {m : Mismatch} (hf : (Entries.keys file).Nodup) (ho : GiveOnce overrides)
    (h : merge language file overrides = .error m) :
    Entries.find? Setting.custom.key overrides = none ∧
      ∃ v, Entries.find? Setting.custom.key file = some v ∧ v.table = .error m := by
  change ofMerged (mergedEntries language file overrides) = .error m at h
  rcases ofMerged_cases (mergedEntries language file overrides) with ⟨-, he⟩ | ⟨-, he⟩
  · rw [he] at h
    cases h
  · rw [he, get_ofEntries, find?_mergedEntries hf ho.nodup language (.inr rfl)] at h
    cases hc : Entries.find? Setting.custom.key overrides with
    | some v =>
      obtain ⟨table, rfl, -⟩ := ho.custom v hc
      rw [hc] at h
      cases h
    | none =>
      rw [hc, Option.none_or] at h
      refine ⟨rfl, ?_⟩
      cases hv : Entries.find? Setting.custom.key file with
      | none =>
        rw [hv] at h
        cases h
      | some v =>
        rw [hv, Option.getD_some] at h
        refine ⟨v, rfl, ?_⟩
        cases ht : v.table with
        | ok table =>
          rw [ht] at h
          cases h
        | error m' =>
          rw [ht] at h
          cases h
          rfl

/-! Settings files. -/

theorem nodup_keys_of_readFile {t : FileTree} {p : Path} {levels : Nat} (h : readFile t p levels = .ok entries) :
    (Entries.keys entries).Nodup := by
  obtain ⟨document, -, hd⟩ := exists_document_of_readFile h
  unfold ofDocument at hd
  split at hd
  · next hr =>
    cases hd
    exact (Json.isDocument_of_read hr).isJson.nodup_keys
  all_goals cases hd

/-- With overrides there are settings that obey them, unless the file has a custom entry that is no table and that nothing
overrides. -/
theorem obeys_of_load {t : FileTree} {name : String} {levels : Nat} (hn : name ≠ "")
    (hf : readFile t (.ofText name) levels = .ok file) (ho : GiveOnce overrides) (language : String) :
    (∃ s, load t language overrides (some name) levels = .ok s ∧ s.Obeys file overrides) ∨
      ∃ v m, load t language overrides (some name) levels = .error (.mismatch m) ∧
        Entries.find? Setting.custom.key overrides = none ∧ Entries.find? Setting.custom.key file = some v ∧
        v.table = .error m := by
  have hk := nodup_keys_of_readFile hf
  rw [load_eq hn, hf]
  change (∃ s, (merge language file overrides).mapError LoadError.mismatch = .ok s ∧ s.Obeys file overrides) ∨
    ∃ v m, (merge language file overrides).mapError LoadError.mismatch = .error (.mismatch m) ∧ _
  cases hm : merge language file overrides with
  | ok s => exact .inl ⟨s, rfl, obeys_of_merge hk ho hm⟩
  | error m =>
    obtain ⟨hnone, v, hv, ht⟩ := custom_of_merge_error hk ho hm
    exact .inr ⟨v, m, rfl, hnone, hv, ht⟩

def themedFile : FileTree :=
  ⟨["w"], [(["w"], .folder), (["w", "c.json"], .file "\x7b\"indent_size\": 2, \"theme\": \"dark\"\x7d".toUTF8)]⟩

theorem readFile_themedFile :
    readFile themedFile (.ofText "c.json") = .ok [("indent_size", .int 2), ("theme", .text "dark")] := by
  have hfind : themedFile.find (.ofText "c.json") =
      .ok (.file "\x7b\"indent_size\": 2, \"theme\": \"dark\"\x7d".toUTF8) := rfl
  have hread : Json.read "\x7b\"indent_size\": 2, \"theme\": \"dark\"\x7d".toList =
      .ok (.object [("indent_size", .int 2), ("theme", .text "dark")]) := by cbv
  rw [readFile_of_find hfind (by decide +kernel), Text.unifyLineEnds_of_not_mem (by decide), String.ofList_toList,
    ofDocument, hread]

/-- Overrides of a setting that the file gives too, of an entry at the top, and of one in their custom table. -/
theorem obeys_of_load_spread :
    let overrides : List (String × Value) :=
      [("indent_size", .int 8), ("theme", .text "light"), ("custom", .object [("font", .text "mono")])]
    "c.json" ≠ "" ∧ readFile themedFile (.ofText "c.json") = .ok [("indent_size", .int 2), ("theme", .text "dark")] ∧
      GiveOnce overrides ∧ ∃ s, load themedFile "csharp" overrides (some "c.json") = .ok s ∧
        s.get .indentSize = .int 8 ∧ s.custom? "theme" = some (.text "light") ∧ s.custom? "font" = some (.text "mono") := by
  intro overrides
  have hcustom : Entries.find? Setting.custom.key overrides = some (.object [("font", .text "mono")]) := rfl
  have ho : GiveOnce overrides := by
    refine ⟨by decide, fun v hv => ⟨_, Option.some.inj (hv.symm.trans hcustom), fun k hk _ => ?_⟩⟩
    rw [List.mem_singleton.1 hk]
    decide
  have hn : "c.json" ≠ "" := by decide
  refine ⟨hn, readFile_themedFile, ho, ?_⟩
  rcases obeys_of_load hn readFile_themedFile ho "csharp" with ⟨s, hl, hs⟩ | ⟨_, _, -, hnone, -⟩
  · refine ⟨s, hl, hs.setting .indentSize _ (by decide) rfl, hs.stranger _ _ (by decide +kernel) rfl, ?_⟩
    exact (hs.custom _ "font" (.text "mono") hcustom rfl).trans rfl
  · rw [hcustom] at hnone
    cases hnone

/-- An override in the custom table that loses to the top of the file. -/
theorem override_lost :
    let overrides : List (String × Value) := [("custom", .object [("theme", .text "light")])]
    GiveOnce overrides ∧ ∃ s, load themedFile "csharp" overrides (some "c.json") = .ok s ∧
      s.custom? "theme" = some (.text "dark") := by
  intro overrides
  refine ⟨⟨by decide, fun v hv => ⟨_, (Option.some.inj hv).symm, fun k hk _ => ?_⟩⟩, ?_⟩
  · rw [List.mem_singleton.1 hk]
    decide
  · rw [load_eq (by decide), readFile_themedFile]
    exact ⟨_, rfl, rfl⟩

end Settings

end ModelForge
