import ModelForge.Proofs.Json.Documents
import ModelForge.Proofs.Json.Limits
import ModelForge.Proofs.Merging

/-! What loading a settings file comes to, for every content that a file can have. Most of what is wrong with a file is
refused as such; bytes that are no text, numbers that are too long, lists and objects that are nested too deep, paths that
are too long and a custom entry that is no table are not. -/

namespace ModelForge.Settings

variable {t : FileTree} {p : Path} {s : Settings} {document : List Char} {entries : List (String × Value)} {name : String}
  {levels : Nat} {halves : Bool}

/-- A JSON file whose text is the document, with every line end as a line feed. -/
def HoldsText (t : FileTree) (p : Path) (document : List Char) : Prop :=
  isJsonFile p = true ∧ ∃ text : String, t.find p = .ok (.file text.toUTF8) ∧ document = Text.unifyLineEnds text.toList

def HoldsObject (t : FileTree) (p : Path) (entries : List (String × Value)) (levels : Nat := Json.maxLevels)
    (halves : Bool := true) : Prop :=
  ∃ document, HoldsText t p document ∧ Json.IsDocument halves levels document (.object entries)

inductive IsRefused (t : FileTree) (p : Path) (levels : Nat) : ConfigError → Prop where
  | notFound {trouble : Trouble} (h : t.find p = .error trouble) (hn : trouble ≠ .nameTooLong) :
      IsRefused t p levels (.notFound p)
  | notJson {n : Node} (h : t.find p = .ok n) (hj : isJsonFile p = false) : IsRefused t p levels (.notJson p)
  | unreadable (h : t.find p = .ok .folder) (hj : isJsonFile p = true) : IsRefused t p levels (.unreadable p ⟨.isFolder, p⟩)
  | invalid {document rest : List Char} {flaw : Json.Flaw} (h : HoldsText t p document)
      (hv : ∀ v, ¬Json.IsDocument true levels document v) (hr : Json.read document levels = .error (.at flaw rest)) :
      IsRefused t p levels (.invalid p (Json.Fault.message document (.at flaw rest)))
  | noObject {document : List Char} {v : Value} (h : HoldsText t p document) (hv : Json.IsDocument true levels document v)
      (ho : ∀ entries, v ≠ .object entries) : IsRefused t p levels (.noObject p)

inductive Escapes (t : FileTree) (p : Path) (levels : Nat) : LoadError → Prop where
  | tooLong (h : t.find p = .error .nameTooLong) : Escapes t p levels (.fault ⟨.nameTooLong, p⟩)
  | encoding {bytes : ByteArray} {f : Text.Utf8.Fault} (h : t.find p = .ok (.file bytes)) (hj : isJsonFile p = true)
      (hb : ∀ text : String, bytes ≠ text.toUTF8) (hf : Text.Utf8.decode bytes = .error f) :
      Escapes t p levels (.encoding f)
  | longNumber {document : List Char} {n : Nat} (h : HoldsText t p document) (hl : Json.HasLongNumber document)
      (hv : ∀ v, ¬Json.IsDocument true levels document v) (hr : Json.read document levels = .error (.longNumber n)) :
      Escapes t p levels (.longNumber (.longNumber n))
  | tooDeep {document : List Char} {bracket : Char} (h : HoldsText t p document)
      (hl : levels < Json.bracketCount document) (hv : ∀ v, ¬Json.IsDocument true levels document v)
      (hr : Json.read document levels = .error (.tooDeep bracket)) : Escapes t p levels (.tooDeep (.tooDeep bracket))
  | custom {entries : List (String × Value)} {m : Mismatch} (h : HoldsObject t p entries levels)
      (hs : strangers entries ≠ []) (hc : (givenCustom entries).table = .error m) : Escapes t p levels (.mismatch m)

/-- The keys of the pairs that a custom table is made of are texts. -/
def HasTextKeys (custom : Value) : Prop :=
  ∀ vs, custom.elements = .ok vs → ∀ pair ∈ vs, ∀ k v, pair.elements = .ok [k, v] → ∃ t, k = .text t

/-- Loading a file gives settings if it holds an object, unless other entries are to go into a custom one that is no table;
or it is refused with a reason; or else there is an error of another kind. The settings are those of the object, which are
known as far as no text has half of a pair alone and no table a key that is no text. -/
structure EndsAs (t : FileTree) (p : Path) (levels : Nat) (r : Except LoadError Settings) : Prop where
  loaded : (∃ s, r = .ok s) ↔ ∃ entries, HoldsObject t p entries levels ∧
    (strangers entries ≠ [] → ∃ table, (givenCustom entries).table = .ok table)
  built : ∀ entries, HoldsObject t p entries levels false → (strangers entries ≠ [] → HasTextKeys (givenCustom entries)) →
    ∀ s, r = .ok s ↔ IsBuiltFrom entries s
  refused : ∀ e, r = .error (.config e) ↔ IsRefused t p levels e
  escaped : ∀ e, (∀ c, e ≠ .config c) → (r = .error e ↔ Escapes t p levels e)

/-! Reading. -/

theorem readFile_of_holdsText (h : HoldsText t p document) :
    readFile t p levels = ofDocument p (String.ofList document) levels := by
  obtain ⟨hj, text, hf, rfl⟩ := h
  exact readFile_of_find hf hj

theorem readFile_of_holdsObject (h : HoldsObject t p entries levels halves) : readFile t p levels = .ok entries := by
  obtain ⟨document, ht, hd⟩ := h
  rw [readFile_of_holdsText ht, ofDocument, String.toList_ofList, hd.read_eq]

theorem HoldsObject.isJson (h : HoldsObject t p entries levels halves) : (Value.object entries).IsJson := by
  obtain ⟨_, -, hd⟩ := h
  exact hd.isJson

theorem HoldsObject.nodup (h : HoldsObject t p entries levels halves) : (Entries.keys entries).Nodup := h.isJson.nodup_keys

theorem look_of_find_error {trouble : Trouble} (h : t.find p = .error trouble) :
    t.look p = if trouble = .nameTooLong then .error ⟨.nameTooLong, p⟩ else .ok none := by
  rw [FileTree.look, h]
  cases trouble <;> rfl

theorem readFile_of_isJsonFile {n : Node} (h : t.find p = .ok n) (hj : isJsonFile p = true) :
    readFile t p levels = match t.readText p with
      | .error (.file f) => .error (.config (.unreadable p f))
      | .error (.encoding f) => .error (.encoding f)
      | .ok document => ofDocument p document levels := by
  simp only [readFile, look_of_find h, hj]
  rfl

theorem readFile_of_isRefused {e : ConfigError} (h : IsRefused t p levels e) : readFile t p levels = .error (.config e) := by
  cases h with
  | notFound h hn =>
    simp only [readFile, look_of_find_error h, if_neg hn]
    rfl
  | notJson h hj => exact readFile_of_not_isJsonFile h hj
  | unreadable h hj =>
    have hr : t.readText p = .error (.file ⟨.isFolder, p⟩) := by simp only [FileTree.readText, FileTree.read, h]
    rw [readFile_of_isJsonFile h hj, hr]
  | invalid h _ hr => rw [readFile_of_holdsText h, ofDocument, String.toList_ofList, hr]
  | noObject h hv ho =>
    rw [readFile_of_holdsText h, ofDocument, String.toList_ofList, hv.read_eq]
    split
    · next heq => exact absurd (Except.ok.inj heq) (ho _)
    · rfl
    all_goals next heq => cases heq

theorem readFile_of_escapes {e : LoadError} (h : Escapes t p levels e) : readFile t p levels = .error e ∨
    ∃ entries, HoldsObject t p entries levels ∧ (ofMerged entries).mapError .mismatch = .error e := by
  cases h with
  | tooLong h =>
    simp only [readFile, look_of_find_error h, if_pos]
    exact .inl rfl
  | @encoding _ f h hj _ hf =>
    have hr : t.readText p = .error (.encoding f) := by simp only [FileTree.readText, FileTree.read, h, hf]
    rw [readFile_of_isJsonFile h hj, hr]
    exact .inl rfl
  | longNumber h _ _ hr =>
    rw [readFile_of_holdsText h, ofDocument, String.toList_ofList, hr]
    exact .inl rfl
  | tooDeep h _ _ hr =>
    rw [readFile_of_holdsText h, ofDocument, String.toList_ofList, hr]
    exact .inl rfl
  | custom h hs hc => exact .inr ⟨_, h, by rw [ofMerged_eq_error_iff.2 ⟨hs, hc⟩]; rfl⟩

theorem load_of_holdsObject (hn : name ≠ "") (h : HoldsObject t (.ofText name) entries levels halves) (language : String) :
    load t language [] (some name) levels = (ofMerged entries).mapError .mismatch := by
  have hm : merge language entries [] = ofMerged entries := by
    rw [merge_eq, List.append_nil, ofMerged_putAll_nil h.nodup]
  rw [load_eq hn, readFile_of_holdsObject h, ← hm]
  rfl

theorem load_of_isRefused {e : ConfigError} (hn : name ≠ "") (h : IsRefused t (.ofText name) levels e)
    (language : String) : load t language [] (some name) levels = .error (.config e) := by
  rw [load_eq hn, readFile_of_isRefused h]
  rfl

theorem load_of_escapes {e : LoadError} (hn : name ≠ "") (h : Escapes t (.ofText name) levels e) (language : String) :
    load t language [] (some name) levels = .error e := by
  rcases readFile_of_escapes h with hr | ⟨entries, ho, hm⟩
  · rw [load_eq hn, hr]
    rfl
  · rw [load_of_holdsObject hn ho, hm]

/-- There is nothing else that a file can be. -/
theorem holdsObject_or_isRefused_or_escapes (t : FileTree) (p : Path) (levels : Nat) :
    (∃ entries, HoldsObject t p entries levels) ∨ (∃ e, IsRefused t p levels e) ∨
      ∃ e, (∀ c, e ≠ .config c) ∧ Escapes t p levels e := by
  -- A path is followed, its name judged, the file decoded and the document read; each stage can be the last.
  cases hf : t.find p with
  | error trouble =>
    by_cases ht : trouble = .nameTooLong
    · exact .inr (.inr ⟨.fault _, nofun, .tooLong (ht ▸ hf)⟩)
    · exact .inr (.inl ⟨_, .notFound hf ht⟩)
  | ok n =>
    cases hj : isJsonFile p with
    | false => exact .inr (.inl ⟨_, .notJson hf hj⟩)
    | true =>
      cases n with
      | folder => exact .inr (.inl ⟨_, .unreadable hf hj⟩)
      | file bytes =>
        cases hd : Text.Utf8.decode bytes with
        | error f =>
          have hb (text : String) : bytes ≠ text.toUTF8 := by
            rintro rfl
            rw [Text.Utf8.decode_toUTF8] at hd
            cases hd
          exact .inr (.inr ⟨.encoding f, nofun, .encoding hf hj hb hd⟩)
        | ok text =>
          have ht : HoldsText t p (Text.unifyLineEnds text.toList) := ⟨hj, text, Text.Utf8.decode_eq_ok_iff.1 hd ▸ hf, rfl⟩
          have hnone {f : Json.Fault} (hr : Json.read (Text.unifyLineEnds text.toList) levels = .error f) (v : Value) :
              ¬Json.IsDocument true levels (Text.unifyLineEnds text.toList) v := by
            intro hv
            rw [hv.read_eq] at hr
            cases hr
          cases hr : Json.read (Text.unifyLineEnds text.toList) levels with
          | error f =>
            cases f with
            | «at» flaw rest => exact .inr (.inl ⟨_, .invalid ht (hnone hr) hr⟩)
            | longNumber n =>
              have hl := Json.hasLongNumber_of_read hr
              exact .inr (.inr ⟨.longNumber _, nofun, .longNumber ht hl (hnone hr) hr⟩)
            | tooDeep bracket =>
              have hl := Json.lt_bracketCount_of_read hr
              exact .inr (.inr ⟨.tooDeep _, nofun, .tooDeep ht hl (hnone hr) hr⟩)
          | ok v =>
            have hv := Json.read_eq_ok_iff.1 hr
            cases v with
            | object entries => exact .inl ⟨entries, _, ht, hv⟩
            | _ => exact .inr (.inl ⟨_, .noObject ht hv nofun⟩)

theorem load_file_cases (hn : name ≠ "") (t : FileTree) (language : String) (levels : Nat) :
    (∃ entries s, HoldsObject t (.ofText name) entries levels ∧ IsBuiltFrom entries s ∧
        load t language [] (some name) levels = .ok s) ∨
      (∃ e, IsRefused t (.ofText name) levels e ∧ load t language [] (some name) levels = .error (.config e)) ∨
      ∃ e, (∀ c, e ≠ .config c) ∧ Escapes t (.ofText name) levels e ∧ load t language [] (some name) levels = .error e := by
  rcases holdsObject_or_isRefused_or_escapes t (.ofText name) levels with ⟨entries, ho⟩ | ⟨e, he⟩ | ⟨e, hother, he⟩
  · have hload := load_of_holdsObject hn ho language
    cases hm : ofMerged entries with
    | ok s =>
      rw [hm] at hload
      exact .inl ⟨entries, s, ho, ofMerged_eq_ok_iff.1 hm, hload⟩
    | error m =>
      rw [hm] at hload
      obtain ⟨hs, hc⟩ := ofMerged_eq_error_iff.1 hm
      exact .inr (.inr ⟨.mismatch m, nofun, .custom ho hs hc, hload⟩)
  · exact .inr (.inl ⟨e, he, load_of_isRefused hn he language⟩)
  · exact .inr (.inr ⟨e, hother, he, load_of_escapes hn he language⟩)

theorem load_eq_ok_iff (hn : name ≠ "") (h : HoldsObject t (.ofText name) entries levels halves) (language : String) :
    load t language [] (some name) levels = .ok s ↔ IsBuiltFrom entries s := by
  rw [load_of_holdsObject hn h, ← ofMerged_eq_ok_iff]
  cases ofMerged entries with
  | error m => exact ⟨nofun, nofun⟩
  | ok s' => exact ⟨fun e => congrArg Except.ok (Except.ok.inj e), fun e => congrArg Except.ok (Except.ok.inj e)⟩

theorem exists_isBuiltFrom_iff :
    (∃ s, IsBuiltFrom entries s) ↔ (strangers entries ≠ [] → ∃ table, (givenCustom entries).table = .ok table) := by
  constructor
  · rintro ⟨s, hs⟩ hne
    have hc := hs.custom
    rw [if_neg hne] at hc
    obtain ⟨table, ht, -⟩ := hc
    exact ⟨table, ht⟩
  · intro h
    by_cases hs : strangers entries = []
    · exact ⟨_, isBuiltFrom_ofEntries hs⟩
    · obtain ⟨table, ht⟩ := h hs
      exact ⟨_, isBuiltFrom_set hs ht⟩

theorem holdsObject_themedFile :
    HoldsObject themedFile (.ofText "c.json") [("indent_size", .int 2), ("theme", .text "dark")] := by
  have hread : Json.read "\x7b\"indent_size\": 2, \"theme\": \"dark\"\x7d".toList =
      .ok (.object [("indent_size", .int 2), ("theme", .text "dark")]) := by cbv
  refine ⟨_, ⟨by decide +kernel, _, rfl, rfl⟩, ?_⟩
  rw [Text.unifyLineEnds_of_not_mem (by decide)]
  exact Json.read_eq_ok_iff.1 hread

theorem isBuiltFrom_themedFile :
    let entries : List (String × Value) := [("indent_size", .int 2), ("theme", .text "dark")]
    IsBuiltFrom entries ((ofEntries entries).set .custom (.object (Entries.putAll [] (strangers entries)))) :=
  isBuiltFrom_set (by decide +kernel) rfl

def undefinedFile : FileTree :=
  ⟨["w"], [(["w"], .folder), (["w", "c.json"], .file "\x7b\"x\": NaN\x7d".toUTF8)]⟩

theorem holdsText_undefinedFile : HoldsText undefinedFile (.ofText "c.json") "\x7b\"x\": NaN\x7d".toList := by
  refine ⟨by decide +kernel, _, rfl, ?_⟩
  rw [Text.unifyLineEnds_of_not_mem (by decide)]

theorem holdsObject_undefinedFile (levels : Nat) :
    HoldsObject undefinedFile (.ofText "c.json") [("x", .decimal false .undefined)] (levels + 1) false := by
  have hnone : Json.Spaces [] := List.forall_mem_nil _
  have hblank : Json.Spaces [' '] := List.forall_mem_singleton.2 rfl
  have hkey : Json.IsInner false ['x'] ['x'] := .plain (by decide) (by decide) (by decide) .nil
  have hword : Json.Denotes false levels (.value (.decimal false .undefined)) "NaN".toList :=
    .word (w := ("NaN".toList, _)) (by simp [Json.words])
  exact ⟨_, holdsText_undefinedFile, [], _, [], rfl, hnone, hnone,
    .object hnone (.lastEntry (.entry hkey hnone hblank hword hnone))⟩

def undecodedFile : FileTree := ⟨["w"], [(["w"], .folder), (["w", "c.json"], .file ⟨#[0xFF]⟩)]⟩

end ModelForge.Settings
