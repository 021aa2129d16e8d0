import ModelForge.Proofs.FileTree.Following
import ModelForge.Proofs.Json.Values
import ModelForge.Proofs.Succeeding
import ModelForge.Settings.Load
import ModelForge.Settings.Save

/-! Settings that are saved to a file and loaded from it again are the same. Saving spreads the custom table over the top
level of the document; loading collects it again from the keys that name no setting. -/

namespace ModelForge

namespace Setting

theorem key_injective {m n : Setting} (h : m.key = n.key) : m = n := by
  have hm := ofKey?_key m
  rw [h, ofKey?_key] at hm
  exact (Option.some.inj hm).symm

theorem ofKey?_eq_none_iff {k : String} : ofKey? k = none ↔ ∀ n : Setting, k ≠ n.key := by
  simp only [ofKey?, List.find?_eq_none, beq_iff_eq]
  exact ⟨fun h n e => h n (mem_all n) e.symm, fun h n _ e => h n e.symm⟩

end Setting

namespace Settings

/-- All values can be stored, and no key of the custom table is the name of a setting. -/
structure Storable (s : Settings) : Prop where
  values : ∀ n, (s.get n).IsStorable
  custom : ∃ table, s.get .custom = .object table ∧ ∀ k ∈ Entries.keys table, ∀ n : Setting, k ≠ n.key

theorem storable_default : default.Storable := by
  refine ⟨fun n => ?_, [], rfl, nofun⟩
  cases n with
  | indentSize => exact .int (by decide)
  | addComments => exact .bool true
  | escapeKeywords => exact .bool true
  | extraSimpleTypes => exact .list nofun
  | extraCollectionPrefixes => exact .list nofun
  | custom => exact .object List.nodup_nil nofun
  | _ => exact .text _

/-! The document. -/

section

variable (s : Settings)

theorem keys_ownEntries : Entries.keys s.ownEntries = (Setting.all.filter (· ≠ .custom)).map Setting.key := by
  rw [Entries.keys, ownEntries, List.map_map]
  rfl

theorem mem_keys_ownEntries {k : String} : k ∈ Entries.keys s.ownEntries ↔ ∃ n : Setting, n ≠ .custom ∧ k = n.key := by
  simp only [keys_ownEntries, List.mem_map, List.mem_filter, decide_eq_true_eq]
  constructor
  · rintro ⟨n, ⟨-, hn⟩, rfl⟩
    exact ⟨n, hn, rfl⟩
  · rintro ⟨n, hn, rfl⟩
    exact ⟨n, ⟨n.mem_all, hn⟩, rfl⟩

theorem mem_ownEntries {n : Setting} (h : n ≠ .custom) : (n.key, s.get n) ∈ s.ownEntries :=
  List.mem_map.2 ⟨n, List.mem_filter.2 ⟨n.mem_all, decide_eq_true h⟩, rfl⟩

theorem nodup_keys_ownEntries : (Entries.keys s.ownEntries).Nodup := by
  rw [keys_ownEntries]
  decide

end

/-- The custom table is added to the settings, each of its keys new. -/
structure IsSpread (s : Settings) (table document : List (String × Value)) : Prop where
  custom : s.get .custom = .object table
  strange : ∀ k ∈ Entries.keys table, ∀ n : Setting, k ≠ n.key
  document_eq : document = s.ownEntries ++ table
  nodup : (Entries.keys document).Nodup
  storable : (Value.object document).IsStorable

theorem Storable.exists_isSpread {s : Settings} (h : s.Storable) : ∃ table document, s.IsSpread table document := by
  obtain ⟨table, htable, hkeys⟩ := h.custom
  have hstored : (Value.object table).IsStorable := htable ▸ h.values .custom
  cases hstored with
  | object hn hv =>
    have hnodup : (Entries.keys (s.ownEntries ++ table)).Nodup := by
      rw [Entries.keys, List.map_append, List.nodup_append]
      refine ⟨s.nodup_keys_ownEntries, hn, fun k hk l hl e => ?_⟩
      obtain ⟨n, -, hkn⟩ := s.mem_keys_ownEntries.1 hk
      exact hkeys l hl n (e.symm.trans hkn)
    have hvalues : ∀ e ∈ s.ownEntries ++ table, e.2.IsStorable := by
      intro e he
      rcases List.mem_append.1 he with he | he
      · obtain ⟨n, -, rfl⟩ := List.mem_map.1 he
        exact h.values n
      · exact hv e he
    exact ⟨table, _, htable, hkeys, rfl, hnodup, .object hnodup hvalues⟩

section

variable {s : Settings} {table document : List (String × Value)}

theorem IsSpread.putAll_table (h : s.IsSpread table document) : Entries.putAll [] table = table := by
  have hd := h.nodup
  rw [h.document_eq, Entries.keys, List.map_append, List.nodup_append] at hd
  exact Entries.putAll_of_nodup hd.2.1

theorem IsSpread.document_ok (h : s.IsSpread table document) : s.document = .ok document := by
  rw [Settings.document, h.custom, Value.table_object, h.document_eq]
  exact congrArg Except.ok (Entries.putAll_of_nodup (h.document_eq ▸ h.nodup))

theorem IsSpread.find?_setting (h : s.IsSpread table document) {n : Setting} (hn : n ≠ .custom) :
    Entries.find? n.key document = some (s.get n) := by
  refine Entries.find?_eq_some_of_mem h.nodup ?_
  rw [h.document_eq]
  exact List.mem_append_left table (s.mem_ownEntries hn)

theorem IsSpread.find?_custom (h : s.IsSpread table document) : Entries.find? Setting.custom.key document = none := by
  rw [Entries.find?_eq_none_iff, h.document_eq, Entries.keys, List.map_append, List.mem_append, not_or]
  refine ⟨fun hm => ?_, fun hm => h.strange _ hm .custom rfl⟩
  obtain ⟨n, hn, hk⟩ := s.mem_keys_ownEntries.1 hm
  exact hn (Setting.key_injective hk).symm

theorem strangers_eq_nil {entries : List (String × Value)} (h : ∀ e ∈ entries, ∃ n : Setting, e.1 = n.key) :
    strangers entries = [] := by
  rw [strangers, List.filter_eq_nil_iff]
  intro e he
  obtain ⟨n, hn⟩ := h e he
  rw [hn, Setting.ofKey?_key]
  exact Bool.false_ne_true

theorem IsSpread.strangers_document (h : s.IsSpread table document) : strangers document = table := by
  have hown : strangers s.ownEntries = [] := by
    refine strangers_eq_nil fun e he => ?_
    obtain ⟨n, -, rfl⟩ := List.mem_map.1 he
    exact ⟨n, rfl⟩
  have htable : strangers table = table := by
    refine List.filter_eq_self.2 fun e he => ?_
    rw [Setting.ofKey?_eq_none_iff.2 (h.strange e.1 (List.mem_map_of_mem he))]
    rfl
  rw [h.document_eq, strangers, List.filter_append, ← strangers, ← strangers, hown, htable, List.nil_append]

/-! Merging it. -/

/-- The one table there is says for some settings what is their default anyway. -/
theorem languageDefaults_eq : languageDefaults =
    [("csharp", ([.rootNamespace, .entityNamespace, .dtoNamespace, .fileExtension, .dtoSuffix, .mapperSuffix, .toDtoMethod,
      .toEntityMethod, .addComments, .escapeKeywords] : List Setting).map fun n => (n.key, n.default))] := rfl

theorem exists_of_mem_defaultEntries {language : String} {e : String × Value} (h : e ∈ defaultEntries language) :
    ∃ n : Setting, n ≠ .custom ∧ e = (n.key, n.default) := by
  simp only [defaultEntries, languageDefaults_eq, Entries.find?] at h
  split at h
  · obtain ⟨n, hn, rfl⟩ := List.mem_map.1 h
    refine ⟨n, ?_, rfl⟩
    rintro rfl
    simp at hn
  · cases h

theorem strangers_defaultEntries (language : String) : strangers (defaultEntries language) = [] := by
  refine strangers_eq_nil fun e he => ?_
  obtain ⟨n, -, rfl⟩ := exists_of_mem_defaultEntries he
  exact ⟨n, rfl⟩

theorem find?_custom_defaultEntries (language : String) :
    Entries.find? Setting.custom.key (defaultEntries language) = none := by
  rw [Entries.find?_eq_none_iff]
  intro hm
  obtain ⟨e, he, hk⟩ := List.mem_map.1 hm
  obtain ⟨n, hn, rfl⟩ := exists_of_mem_defaultEntries he
  exact hn (Setting.key_injective hk)

theorem eq_of_get {s' : Settings} (h : ∀ n, s.get n = s'.get n) : s = s' := by
  cases s
  cases s'
  exact congrArg Settings.mk (funext h)

theorem get_set (n m : Setting) (v : Value) : (s.set n v).get m = if m = n then v else s.get m := rfl

theorem get_ofEntries (entries : List (String × Value)) (n : Setting) :
    (ofEntries entries).get n = (Entries.find? n.key entries).getD n.default := rfl

theorem IsSpread.get_merged (h : s.IsSpread table document) (language : String) (n : Setting) :
    (ofEntries (Entries.putAll (defaultEntries language) document)).get n =
      if n = .custom then .object [] else s.get n := by
  rw [get_ofEntries, Entries.find?_putAll h.nodup]
  split
  · next hn =>
    rw [hn, h.find?_custom, find?_custom_defaultEntries]
    rfl
  · next hn =>
    rw [h.find?_setting hn]
    rfl

theorem IsSpread.strangers_merged (h : s.IsSpread table document) (language : String) :
    strangers (Entries.putAll (defaultEntries language) document) = table := by
  calc strangers (Entries.putAll (defaultEntries language) document)
    _ = Entries.putAll (strangers (defaultEntries language)) (strangers document) :=
      Entries.filter_putAll (fun k => (Setting.ofKey? k).isNone) _ _
    _ = Entries.putAll [] table := by rw [strangers_defaultEntries, h.strangers_document]
    _ = table := h.putAll_table

theorem IsSpread.merge_eq (h : s.IsSpread table document) (language : String) : merge language document [] = .ok s := by
  have hmerged : merge language document [] = ofMerged (Entries.putAll (defaultEntries language) document) := rfl
  rw [hmerged, ofMerged, h.strangers_merged, h.get_merged, if_pos rfl, Value.table_object]
  -- Without strangers the custom table is left at its default, which is then what was saved.
  split
  · next hempty =>
    have hnil : table = [] := List.isEmpty_iff.1 hempty
    refine congrArg Except.ok (eq_of_get fun n => ?_)
    rw [h.get_merged]
    split
    · next hn => rw [hn, h.custom, hnil]
    · rfl
  · refine congrArg Except.ok (eq_of_get fun n => ?_)
    rw [get_set, h.get_merged, h.putAll_table]
    split
    · next hn => rw [hn, h.custom]
    · rfl

end

/-! The file. -/

variable {s : Settings} {t : FileTree} {p : Path} {levels : Nat}

def withDocument (t : FileTree) (p : Path) (document : List (String × Value)) : FileTree :=
  t.withFile p (String.ofList (Json.write 0 (.object document))).toUTF8

/-- Every value can be copied in the room that the stack has. -/
def IsCopyable (s : Settings) (room : Nat) : Prop := ∀ n, (s.get n).calls ≤ room

theorem any_calls_eq_false_iff {room : Nat} :
    (Setting.all.any fun n => decide (room < (s.get n).calls)) = false ↔ s.IsCopyable room := by
  simp only [List.any_eq_false, decide_eq_true_eq, Nat.not_lt]
  exact ⟨fun h n => h n n.mem_all, fun h n _ => h n⟩

theorem save_of_not_isCopyable {room : Nat} (h : ¬s.IsCopyable room) (t : FileTree) (p : Path) :
    s.save t p room = .error (.mismatch .tooDeep) := by
  rw [save, if_pos (eq_true_of_ne_false (mt any_calls_eq_false_iff.1 h))]
  rfl

theorem save_of_document {room : Nat} (hroom : s.IsCopyable room) {document : List (String × Value)}
    (h : s.document = .ok document) (ht : t.isOpenable p = true) :
    s.save t p room = .ok (withDocument t p document) := by
  have htext : s.documentText = .ok (String.ofList (Json.write 0 (.object document))) := by
    rw [documentText, h]
    rfl
  have hwrite := FileTree.write_of_isOpenable ht (String.ofList (Json.write 0 (.object document))).toUTF8
  rw [save, if_neg (Bool.eq_false_iff.1 (any_calls_eq_false_iff.2 hroom)), htext]
  exact congrArg (Except.mapError _) hwrite

theorem find_withDocument (ht : t.isOpenable p = true) (document : List (String × Value)) :
    (withDocument t p document).find p = .ok (.file (String.ofList (Json.write 0 (.object document))).toUTF8) :=
  FileTree.find_withFile ht _

theorem look_of_find {n : Node} (h : t.find p = .ok n) : t.look p = .ok (some n) := by
  rw [FileTree.look, h]

theorem readFile_of_not_isJsonFile {n : Node} (h : t.find p = .ok n) (hj : isJsonFile p = false) :
    readFile t p levels = .error (.config (.notJson p)) := by
  simp only [readFile, look_of_find h, hj]
  rfl

theorem readFile_of_find {document : String} (h : t.find p = .ok (.file document.toUTF8)) (hj : isJsonFile p = true) :
    readFile t p levels = ofDocument p (String.ofList (Text.unifyLineEnds document.toList)) levels := by
  have hread : t.read p = .ok document.toUTF8 := by rw [FileTree.read, h]
  simp only [readFile, look_of_find h, hj, FileTree.readText_of_read hread]
  rfl

theorem exists_document_of_readFile {entries : List (String × Value)} (h : readFile t p levels = .ok entries) :
    ∃ document, t.readText p = .ok document ∧ ofDocument p document levels = .ok entries := by
  obtain ⟨found, -, h⟩ := exists_of_bind_eq_ok h
  cases found with
  | none => cases h
  | some n =>
    cases hj : isJsonFile p with
    | false =>
      rw [hj] at h
      cases h
    | true =>
      rw [hj] at h
      cases ht : t.readText p with
      | error f =>
        rw [ht] at h
        cases f <;> cases h
      | ok document =>
        rw [ht] at h
        exact ⟨document, rfl, h⟩

theorem depth_lt_of_isCopyable {room : Nat} (h : s.IsCopyable room) (hl : room < 2 * levels) (n : Setting) :
    (s.get n).depth < levels := by
  have htwice := (s.get n).two_mul_depth_le_calls
  have hcalls := h n
  omega

theorem depth_document_le {table document : List (String × Value)} (hc : s.get .custom = .object table)
    (hdocument : ∀ e ∈ document, e ∈ s.ownEntries ∨ e ∈ table) (h : ∀ n, (s.get n).depth < levels) :
    (Value.object document).depth ≤ levels := by
  have htable := h .custom
  rw [hc, Value.depth] at htable
  obtain ⟨levels, rfl⟩ := Nat.exists_eq_add_one.2 (Nat.zero_lt_of_lt htable)
  rw [Value.depth, Nat.add_le_add_iff_right, Value.depthOfEntries_le_iff]
  intro e he
  rcases hdocument e he with ho | ht
  · obtain ⟨n, -, rfl⟩ := List.mem_map.1 ho
    exact Nat.le_of_lt_succ (h n)
  · exact Value.depthOfEntries_le_iff.1 (by omega) e ht

theorem IsSpread.readFile_withDocument {table document : List (String × Value)} (h : s.IsSpread table document)
    (hd : ∀ n, (s.get n).depth < levels) (ht : t.isOpenable p = true) (hj : isJsonFile p = true) :
    readFile (withDocument t p document) p levels = .ok document := by
  have hr := Json.roundTrips_of_isStorable h.storable
  have hdepth := depth_document_le h.custom (fun e he => List.mem_append.1 (h.document_eq ▸ he)) hd
  rw [readFile_of_find (find_withDocument ht document) hj, String.toList_ofList,
    Text.unifyLineEnds_of_not_mem (hr.noReturn 0)]
  simp only [ofDocument, String.toList_ofList, hr.read_write hdepth]

theorem load_eq {file : String} (h : file ≠ "") (language : String) (overrides : List (String × Value)) :
    load t language overrides (some file) levels =
      (readFile t (.ofText file) levels).bind fun entries => (merge language entries overrides).mapError .mismatch := by
  simp only [load, Option.filter_some, h, decide_true, ne_eq, not_false_eq_true, if_true]
  rfl

end Settings

/-! Names that end in `.json`. -/

namespace Path

theorem isSuffix_name_ofText {ending : List Char} {text : String} (h : ending <:+ text.toList) (hs : '/' ∉ ending)
    (hl : 2 ≤ ending.length) : ending <:+ (ofText text).name.toList := by
  obtain ⟨front, hfront⟩ := h
  obtain ⟨pieces, last, hcut⟩ := Text.exists_cutAt_append hs front
  have hpart : isPart (last ++ ending) = true := by
    have hlen : 2 ≤ (last ++ ending).length := by
      rw [List.length_append]
      omega
    simp only [isPart, Bool.and_eq_true, bne_iff_ne]
    constructor <;>
    · intro e
      rw [e] at hlen
      exact absurd hlen (by decide)
  have hname : (ofText text).name = String.ofList (last ++ ending) := by
    rw [ofText, name, partsOf, ← hfront, hcut, List.filter_append, List.filter_cons_of_pos hpart]
    simp
  rw [hname, String.toList_ofList]
  exact List.suffix_append last ending

theorem suffixOf_append_json {front : List Char} (h : front ≠ []) :
    suffixOf (front ++ ['.', 'j', 's', 'o', 'n']) = ['.', 'j', 's', 'o', 'n'] := by
  have hpos := List.length_pos_iff.2 h
  simp [suffixOf]
  omega

end Path

namespace Settings

theorem isJsonFile_iff {text : String} (h : ".json".toList <:+ text.toList) :
    isJsonFile (.ofText text) = true ↔ (Path.ofText text).name ≠ ".json" := by
  obtain ⟨front, hfront⟩ := Path.isSuffix_name_ofText h (by decide +kernel) (by decide +kernel)
  by_cases he : front = []
  · have hname : (Path.ofText text).name = ".json" := by
      rw [he, List.nil_append, String.toList_inj] at hfront
      exact hfront.symm
    have hj : isJsonFile (.ofText text) = false := by
      rw [isJsonFile, Path.suffix, hname]
      decide +kernel
    simp [hname, hj]
  · have hsuffix : (Path.ofText text).suffix = ".json" := by
      rw [Path.suffix, ← hfront]
      exact congrArg String.ofList (Path.suffixOf_append_json he)
    have hj : isJsonFile (.ofText text) = true := by
      rw [isJsonFile, hsuffix]
      decide +kernel
    have hname : (Path.ofText text).name ≠ ".json" := by
      intro e
      rw [e] at hfront
      exact he (List.append_left_eq_self.1 hfront)
    exact ⟨fun _ => hname, fun _ => hj⟩

theorem ne_empty_of_isSuffix {file : String} (h : ".json".toList <:+ file.toList) : file ≠ "" := by
  rintro rfl
  exact absurd h.length_le (by decide +kernel)

/-- Whatever the language, settings that can be stored are loaded as they were saved, from any file that ends in `.json`
but one of that very name, which is no JSON file, if there is half as much room for reading as for copying. Settings that
are nested too deep to be copied are not saved. -/
theorem load_of_save {s : Settings} (h : s.Storable) {t : FileTree} {file : String}
    (hfile : ".json".toList <:+ file.toList) (ht : t.isOpenable (.ofText file) = true) (language : String)
    {room levels : Nat} (hl : room < 2 * levels) :
    (s.IsCopyable room → ∃ after, s.save t (.ofText file) room = .ok after ∧
      load after language [] (some file) levels =
        if (Path.ofText file).name = ".json" then .error (.config (.notJson (.ofText file))) else .ok s) ∧
    (¬s.IsCopyable room → s.save t (.ofText file) room = .error (.mismatch .tooDeep)) := by
  obtain ⟨table, document, hs⟩ := h.exists_isSpread
  refine ⟨fun hroom => ?_, fun hroom => save_of_not_isCopyable hroom t _⟩
  refine ⟨withDocument t (.ofText file) document, save_of_document hroom hs.document_ok ht, ?_⟩
  rw [load_eq (ne_empty_of_isSuffix hfile)]
  split
  · next hname =>
    have hj : isJsonFile (.ofText file) = false := Bool.eq_false_iff.2 fun e => (isJsonFile_iff hfile).1 e hname
    rw [readFile_of_not_isJsonFile (find_withDocument ht document) hj]
    rfl
  · next hname =>
    rw [hs.readFile_withDocument (depth_lt_of_isCopyable hroom hl) ht ((isJsonFile_iff hfile).2 hname), Except.bind,
      hs.merge_eq]
    rfl

theorem isCopyable_default {room : Nat} (h : 3 ≤ room) : default.IsCopyable room := by
  intro n
  refine Nat.le_trans ?_ h
  cases n <;> decide

/-- A nested custom table with a character that has to be escaped, a negative number and a line end as a setting. Copying it
takes nine calls. -/
theorem load_of_save_nested :
    let table : List (String × Value) :=
      [("größe", .object [("inner", .list [.null, .bool false, .int (-12), .text "a\"\\\u0001"]), ("", .list [])])]
    let s := (default.set .lineEnding (.text "\r\n")).set .custom (.object table)
    let t : FileTree := ⟨[], []⟩
    s.Storable ∧ ".json".toList <:+ "team.json".toList ∧ t.isOpenable (.ofText "team.json") = true ∧
    (maxCalls < 2 * Json.maxLevels ∧ s.IsCopyable maxCalls ∧
      ∃ after, s.save t (.ofText "team.json") = .ok after ∧ load after "csharp" [] (some "team.json") = .ok s) ∧
    8 < 2 * 5 ∧ ¬s.IsCopyable 8 ∧ s.save t (.ofText "team.json") 8 = .error (.mismatch .tooDeep) := by
  intro table s t
  have htable : (Value.object table).IsStorable := by
    have hlist : (Value.list [.null, .bool false, .int (-12), .text "a\"\\\u0001"]).IsStorable := by
      refine .list fun v hv => ?_
      simp only [List.mem_cons, List.not_mem_nil, or_false] at hv
      rcases hv with rfl | rfl | rfl | rfl
      · exact .null
      · exact .bool false
      · exact .int (by decide)
      · exact .text _
    refine .object (by decide) fun e he => ?_
    rw [List.mem_singleton.1 he]
    refine .object (by decide) fun f hf => ?_
    simp only [List.mem_cons, List.not_mem_nil, or_false] at hf
    rcases hf with rfl | rfl
    · exact hlist
    · exact .list nofun
  have hs : s.Storable := by
    refine ⟨fun n => ?_, table, rfl, ?_⟩
    · rw [get_set, get_set]
      split
      · exact htable
      · split
        · exact .text _
        · exact storable_default.values n
    · intro k hk n
      rw [List.mem_singleton.1 hk]
      cases n <;> decide +kernel
  have hfile : ".json".toList <:+ "team.json".toList := ⟨['t', 'e', 'a', 'm'], by decide +kernel⟩
  have ht : t.isOpenable (.ofText "team.json") = true := by decide +kernel
  have hroom : s.IsCopyable maxCalls := fun n => by cases n <;> decide
  have hdeep : ¬s.IsCopyable 8 := fun h => absurd (h .custom) (by decide)
  have hl : maxCalls < 2 * Json.maxLevels := by decide
  have hl' : 8 < 2 * 5 := by decide
  obtain ⟨after, hsave, hload⟩ := (load_of_save hs hfile ht "csharp" hl).1 hroom
  exact ⟨hs, hfile, ht, ⟨hl, hroom, after, hsave, hload.trans (if_neg (by decide +kernel))⟩, hl', hdeep,
    (load_of_save hs hfile ht "csharp" hl').2 hdeep⟩

/-- The settings that nobody changed can be saved to a file that is named `.json`, and cannot be loaded from it. -/
theorem load_default_dotJson :
    let t : FileTree := ⟨[], []⟩
    default.Storable ∧ ".json".toList <:+ ".json".toList ∧ t.isOpenable (.ofText ".json") = true ∧
    ∃ after, default.save t (.ofText ".json") = .ok after ∧
      load after "csharp" [] (some ".json") = .error (.config (.notJson (.ofText ".json"))) := by
  intro t
  have ht : t.isOpenable (.ofText ".json") = true := by decide +kernel
  obtain ⟨table, document, hs⟩ := storable_default.exists_isSpread
  have hroom : default.IsCopyable maxCalls := isCopyable_default (by decide)
  have hsave := save_of_document hroom hs.document_ok ht
  refine ⟨storable_default, List.suffix_refl _, ht, withDocument t (.ofText ".json") document, hsave, ?_⟩
  rw [load_eq (by decide), readFile_of_not_isJsonFile (find_withDocument ht document) (by decide +kernel)]
  rfl

end Settings

end ModelForge
