import ModelForge.Creation
import ModelForge.Proofs.CommandLine.Running
import ModelForge.Proofs.SettingsFiles

/-! One table of entries gives the same settings whether it is given as overrides or as a file, for whatever language, and
the registry and the command line make the same generator of it. -/

namespace ModelForge

namespace Registry

variable {t : FileTree} {config config' : Value} {s : Settings}

theorem create_congr (h : ∀ key, settingsOf t key config = settingsOf t key config') (r : Registry) (name : String) :
    r.create t name config = r.create t name config' := by
  simp only [create, h]

theorem create_of_settingsOf (h : ∀ key, settingsOf t key config = .ok s) (r : Registry) (name : String) :
    r.create t name config = r.createWith name s := by
  simp only [create, createWith, h]
  rfl

end Registry

theorem CommandLine.load_of_loadSettings {o : Options} {session after : Session} {s : Settings}
    (h : (loadSettings o).run session = (.ok s, after)) :
    Settings.load session.tree (Text.lower o.language) (overrides o) o.config = .ok s := by
  obtain ⟨hok, herror⟩ := asks_loadSettings o session
  cases hl : Settings.load session.tree (Text.lower o.language) (overrides o) o.config with
  | ok s' =>
    rw [hok s' hl] at h
    cases h
    rfl
  | error e =>
    obtain ⟨f, hf⟩ := herror e hl
    rw [hf] at h
    cases h

namespace Settings

variable {t : FileTree} {d : List (String × Value)} {name : String} {levels : Nat}

structure SameByAllRoutes (t : FileTree) (d : List (String × Value)) (language : String) : Prop where
  anyLanguage : ∀ overrides file levels, load t language overrides file levels = load t "csharp" overrides file levels
  file : ∀ name levels, HoldsObject t (.ofText name) d levels →
    load t language [] (some name) levels = load t "csharp" d none
  direct : (∀ k ∈ Entries.keys d, ∃ n : Setting, k = n.key) → load t "csharp" d none = .ok (ofEntries d)
  registry : ∀ (r : Registry) name, HoldsObject t (.ofText name) d →
    r.create t language (.text name) = r.create t language (.object d)
  /-- The command line looks for the language as it was typed, the registry for what that stands for. -/
  commandLine : ∀ (r : Registry) (o : CommandLine.Options) session s after, o.language = language → session.tree = t →
    (o.config = none ∧ CommandLine.overrides o = d ∨
      ∃ name, o.config = some name ∧ CommandLine.overrides o = [] ∧ HoldsObject t (.ofText name) d) →
    (CommandLine.loadSettings o).run session = (.ok s, after) →
    r.create t language (.object d) = r.createWith language s

theorem load_eq_csharp (t : FileTree) (language : String) (overrides : List (String × Value)) (file : Option String)
    (levels : Nat) : load t language overrides file levels = load t "csharp" overrides file levels := by
  simp only [load, merge_eq]

theorem HoldsObject.ne_empty (h : HoldsObject t (.ofText name) d levels) : name ≠ "" := by
  obtain ⟨_, ⟨hj, -⟩, -⟩ := h
  rintro rfl
  exact absurd hj (by decide +kernel)

theorem load_file_eq (h : HoldsObject t (.ofText name) d levels) (language language' : String) :
    load t language [] (some name) levels = load t language' d none := by
  rw [load_of_holdsObject h.ne_empty h, load_overrides h.nodup]

theorem settingsOf_file (h : HoldsObject t (.ofText name) d) (key : String) :
    Registry.settingsOf t key (.text name) = Registry.settingsOf t key (.object d) := by
  rw [Registry.settingsOf, Registry.settingsOf, load_file_eq h key key]

theorem sameByAllRoutes (hd : (Entries.keys d).Nodup) (t : FileTree) (language : String) :
    SameByAllRoutes t d language where
  anyLanguage := load_eq_csharp t language
  file _ _ h := load_file_eq h language "csharp"
  direct hk := by
    have hs : strangers d = [] := strangers_eq_nil fun e he => hk e.1 (List.mem_map_of_mem he)
    rw [load_overrides hd, ofMerged_eq_ok_iff.2 (isBuiltFrom_ofEntries hs)]
    rfl
  registry r _ h := Registry.create_congr (settingsOf_file h) r language
  commandLine r o session s after hl ht hroute hrun := by
    subst hl ht
    -- Whatever the language that was typed, the session has loaded the settings of the table.
    have hload : load session.tree "csharp" d none = .ok s := by
      have hload := CommandLine.load_of_loadSettings hrun
      rcases hroute with ⟨hnone, ho⟩ | ⟨name, hname, ho, h⟩
      · rwa [hnone, ho, load_eq_csharp] at hload
      · rwa [hname, ho, load_file_eq h _ "csharp"] at hload
    refine Registry.create_of_settingsOf (fun key => ?_) r o.language
    rw [Registry.settingsOf, load_eq_csharp, hload]
    rfl

/-- An alias in another case, and the options of a command line that names it. -/
theorem sameByAllRoutes_alias :
    let d : List (String × Value) := [("indent_size", .int 2), ("theme", .text "dark")]
    let o : CommandLine.Options := { CommandLine.Options.default with language := "C#", config := some "c.json" }
    (Entries.keys d).Nodup ∧ HoldsObject themedFile (.ofText "c.json") d ∧
      Registry.builtin.create themedFile "C#" (.text "c.json") = Registry.builtin.create themedFile "C#" (.object d) ∧
      ∃ s after, (CommandLine.loadSettings o).run ⟨themedFile, []⟩ = (.ok s, after) ∧ s.get .indentSize = .int 2 ∧
        Registry.builtin.create themedFile "C#" (.object d) = Registry.builtin.createWith "C#" s := by
  intro d o
  have hd : (Entries.keys d).Nodup := by decide
  have hroutes := sameByAllRoutes hd themedFile "C#"
  have hload : load themedFile (Text.lower o.language) (CommandLine.overrides o) o.config =
      .ok ((ofEntries d).set .custom (.object (Entries.putAll [] (strangers d)))) := by
    show load themedFile (Text.lower "C#") [] (some "c.json") = _
    rw [load_of_holdsObject (by decide) holdsObject_themedFile, ofMerged_eq_ok_iff.2 isBuiltFrom_themedFile]
    rfl
  have hrun := (CommandLine.asks_loadSettings o ⟨themedFile, []⟩).1 _ hload
  have hcommand := hroutes.commandLine .builtin o _ _ _ rfl rfl (.inr ⟨"c.json", rfl, rfl, holdsObject_themedFile⟩) hrun
  exact ⟨hd, holdsObject_themedFile, hroutes.registry .builtin "c.json" holdsObject_themedFile, _, _, hrun, rfl, hcommand⟩

end Settings

end ModelForge
