import Mathlib.Data.List.Permutation
import ModelForge.Proofs.CommandLine.Overwriting
import ModelForge.Proofs.FileTree.Searching
import ModelForge.Proofs.Redelivery

/-! A run that is repeated on the tree that it left changes nothing more, unless it disturbed what it reads. New folders and
files do not disturb a search, but a step up in the ending of documents leads through them. -/

namespace ModelForge

namespace FileTree

variable {t u : FileTree} {p : Path} {a : Address}

/-- A file is at the address afterwards that was not there, or not with this content. -/
def Rewrites (t u : FileTree) (a : Address) : Prop := u.node? a ≠ t.node? a ∧ u.node? a ≠ some .folder

theorem Grows.find_file (hg : Grows t u) {content : ByteArray} (hf : t.find p = .ok (.file content))
    (hn : ¬ t.Rewrites u (t.resolve p)) : u.find p = .ok (.file content) := by
  obtain ⟨m, hm, hi⟩ := hg.exists_find hf
  have hu := (find_eq_ok_iff.1 hm).2
  rw [resolve_congr hg.home_eq] at hu
  have hfolder : u.node? (t.resolve p) ≠ some .folder := fun hc => by
    rw [hu] at hc
    cases hi.1 (Option.some.inj hc)
  have hsame : u.node? (t.resolve p) = t.node? (t.resolve p) := Classical.not_not.1 fun hc => hn ⟨hc, hfolder⟩
  rw [hu, (find_eq_ok_iff.1 hf).2] at hsame
  rw [hm, Option.some.inj hsame]

theorem stands_of_hasFile (hg : Grows t u) (hf : u.hasFile p = true) (hn : ¬ t.Rewrites u (t.resolve p)) :
    t.stands p = true := by
  obtain ⟨content, hc⟩ := hasFile_iff.1 hf
  have hu := (find_eq_ok_iff.1 hc).2
  rw [resolve_congr hg.home_eq] at hu
  refine stands_iff.2 fun hnone => hn ⟨?_, ?_⟩
  · rw [hu, hnone]
    nofun
  · rw [hu]
    nofun

theorem unit_eq_of_find {content : ByteArray} (h : t.find p = .ok (.file content)) (h' : u.find p = .ok (.file content)) :
    u.unit p = t.unit p := by
  simp only [unit, readText, read, h, h']

end FileTree

namespace Settings

variable {t u : FileTree} {p : Path}

theorem readFile_congr (h : u.find p = t.find p) : readFile u p = readFile t p := by
  simp only [readFile, FileTree.look, FileTree.readText, FileTree.read, h]

theorem exists_file_of_readFile {entries : List (String × Value)} (h : readFile t p = .ok entries) :
    ∃ content, t.find p = .ok (.file content) := by
  obtain ⟨document, hd, -⟩ := exists_document_of_readFile h
  unfold FileTree.readText FileTree.read at hd
  cases hf : t.find p with
  | error e =>
    rw [hf] at hd
    cases hd
  | ok n =>
    cases n with
    | folder =>
      rw [hf] at hd
      cases hd
    | file content => exact ⟨content, rfl⟩

theorem load_of_find {s : Settings} {language : String} {overrides : List (String × Value)} {file : Option String}
    (hl : load t language overrides file = .ok s)
    (h : ∀ name content, file = some name → t.find (.ofText name) = .ok (.file content) →
      u.find (.ofText name) = .ok (.file content)) : load u language overrides file = .ok s := by
  cases file with
  | none => exact hl
  | some name =>
    by_cases hn : name = ""
    · subst hn
      exact hl
    · rw [load_eq hn] at hl ⊢
      obtain ⟨entries, he, -⟩ := exists_of_bind_eq_ok hl
      obtain ⟨content, hc⟩ := exists_file_of_readFile he
      rwa [readFile_congr ((h name content rfl hc).trans hc.symm)]

end Settings

namespace CommandLine

variable {r : Registry} {o : Options} {t : FileTree} {c : Settings} {ws : List String} {g : Generator} {paths : List Path}

theorem tree_ofRun (o : Options) (r : Registry) (t : FileTree) :
    (Invocation.ofRun o r t).session.tree = ((run r o).run ⟨t, []⟩).2.tree := by
  obtain ⟨ps, hs, -⟩ := exists_ofRun_session o r t
  rw [hs, Session.add_tree]

theorem tree_of_not_prepares (h : ¬ ∃ c ws g paths, Prepares r o t c ws g paths) :
    (Invocation.ofRun o r t).session.tree = t := by
  obtain ⟨e, ps, hr, -⟩ := (prepares_or_uncounted r o t).resolve_left h
  rw [tree_ofRun, hr]
  rfl

/-- What is left of a tree when documents of it are compiled into a folder. -/
def delivered (g : Generator) (directory : String) (paths : List Path) (t : FileTree) : FileTree :=
  (t.deliver (.ofText directory) (artifactsOf (g.compileAll (paths.map t.unit)))).1

theorem tree_of_prepares (h : Prepares r o t c ws g paths) :
    (Invocation.ofRun o r t).session.tree = match o.outputDir.filter (· ≠ "") with
      | some directory => delivered g directory paths t
      | none => t := by
  rw [tree_ofRun]
  cases hd : o.outputDir.filter (· ≠ "") with
  | none =>
    have hc (cs : List Compilation) : conclude o cs = showSources cs := by rw [conclude, hd]
    rw [run_of_prepares h, hc, run_bind_of_ok (run_showSources _ _), run_printSummary]
    rfl
  | some directory =>
    obtain ⟨hd, hn⟩ := Option.filter_eq_some_iff.1 hd
    obtain ⟨rest, hs, -⟩ := exists_run_session h hd (of_decide_eq_true hn)
    rw [hs]
    rfl

/-- The documents that the arguments name, if the settings can be loaded. -/
def Finds (o : Options) (t : FileTree) (c : Settings) (paths : List Path) : Prop :=
  Settings.load t (Text.lower o.language) (overrides o) o.config = .ok c ∧
    t.discover (c.get .schemaSuffix) o.inputs = .ok paths

/-- The files that a run wrote are none that it reads, and none that it would read if it were repeated. -/
structure IsUndisturbed (o : Options) (t after : FileTree) : Prop where
  config : ∀ name, o.config = some name → ¬ t.Rewrites after (t.resolve (.ofText name))
  documents : ∀ c paths, Finds o t c paths → ∀ p ∈ paths, ¬ t.Rewrites after (t.resolve p)
  undiscovered : ∀ c paths, Finds o after c paths → ∀ p ∈ paths, ¬ t.Rewrites after (t.resolve p)

/-- Documents are searched for without a step up. -/
def SearchesDown (o : Options) (t : FileTree) : Prop :=
  ∀ c paths segments, Finds o t c paths →
    Segment.ofPattern? ('*' :: (c.get .schemaSuffix).display.toList) = some segments → .up ∉ segments

/-- If both runs get so far as to compile, they compile the same. -/
theorem Prepares.eq_of_grows {after : FileTree} {c' : Settings} {ws' : List String} {g' : Generator} {paths' : List Path}
    (h : Prepares r o t c ws g paths) (h' : Prepares r o after c' ws' g' paths') (ht : t.IsTree)
    (hg : t.Grows after) (hd : SearchesDown o t) (hu : IsUndisturbed o t after) :
    g' = g ∧ paths'.map after.unit = paths.map t.unit := by
  have hload := Settings.load_of_find (u := after) h.loaded fun name content hn hf => hg.find_file hf (hu.config name hn)
  cases h'.loaded.symm.trans hload
  have hfinds : Finds o t c paths := ⟨h.loaded, h.discovered⟩
  have hfinds' : Finds o after c paths' := ⟨h'.loaded, h'.discovered⟩
  have hpaths : paths = paths' := by
    refine FileTree.discover_eq ht hg (fun segments => hd c paths segments hfinds) h.discovered h'.discovered
      fun p hp => ?_
    exact FileTree.stands_of_hasFile hg (FileTree.hasFile_of_mem_discover h'.discovered hp)
      (hu.undiscovered c paths' hfinds' p hp)
  refine ⟨Except.ok.inj (h'.created.symm.trans h.created), ?_⟩
  rw [← hpaths]
  refine List.map_congr_left fun p hp => ?_
  obtain ⟨content, hc⟩ := FileTree.hasFile_iff.1 (FileTree.hasFile_of_mem_discover h.discovered hp)
  exact FileTree.unit_eq_of_find hc (hg.find_file hc (hu.documents c paths hfinds p hp))

theorem tree_ofRun_again (ht : t.IsTree) (hs : SearchesDown o t)
    (hu : IsUndisturbed o t (Invocation.ofRun o r t).session.tree) :
    (Invocation.ofRun o r (Invocation.ofRun o r t).session.tree).session.tree = (Invocation.ofRun o r t).session.tree := by
  by_cases h : ∃ c ws g paths, Prepares r o t c ws g paths
  · obtain ⟨c, ws, g, paths, h⟩ := h
    have hafter := tree_of_prepares h
    generalize (Invocation.ofRun o r t).session.tree = after at hu hafter ⊢
    by_cases h' : ∃ c ws g paths, Prepares r o after c ws g paths
    · obtain ⟨c', ws', g', paths', h'⟩ := h'
      rw [tree_of_prepares h']
      cases hd : o.outputDir.filter (· ≠ "") with
      | none => rfl
      | some directory =>
        rw [hd] at hafter
        have hg : t.Grows after := hafter ▸ FileTree.grows_deliver ht.up_not_mem_home _ _
        obtain ⟨rfl, hunits⟩ := h.eq_of_grows h' ht hg hs hu
        change (after.deliver _ (artifactsOf (g'.compileAll (paths'.map after.unit)))).1 = after
        rw [hunits, hafter]
        exact FileTree.deliver_deliver ht _ _
    · exact tree_of_not_prepares h'
  · rw [tree_of_not_prepares h]
    exact tree_of_not_prepares h

/-- Repeating a command leaves the tree as it is, whatever became of the first run. -/
theorem tree_perform_again (ht : t.IsTree) (r : Registry) (arguments : List String)
    (hs : ∀ o, Options.read arguments = .ok o → SearchesDown o t)
    (hu : ∀ o, Options.read arguments = .ok o → IsUndisturbed o t (Invocation.perform r t arguments).session.tree) :
    (Invocation.perform r (Invocation.perform r t arguments).session.tree arguments).session.tree =
      (Invocation.perform r t arguments).session.tree := by
  cases ho : Options.read arguments with
  | ok o =>
    have hu := hu o ho
    simp only [perform_eq ho] at hu ⊢
    exact tree_ofRun_again ht (hs o ho) hu
  | error e =>
    have hp (t : FileTree) : (Invocation.perform r t arguments).session.tree = t := by
      rw [Invocation.perform, ho]
      cases e <;> rfl
    rw [hp, hp]

theorem isUndisturbed_of_prepares {after : FileTree} {c' : Settings} {ws' : List String} {g' : Generator}
    {paths' : List Path} (h : Prepares r o t c ws g paths) (h' : Prepares r o after c' ws' g' paths')
    (hc : ∀ name, o.config = some name → after.node? (t.resolve (.ofText name)) = t.node? (t.resolve (.ofText name)))
    (hp : ∀ p ∈ paths ++ paths', after.node? (t.resolve p) = t.node? (t.resolve p)) : IsUndisturbed o t after := by
  refine ⟨fun name hn hr => hr.1 (hc name hn), fun c₁ paths₁ hf p hm hr => hr.1 (hp p ?_),
    fun c₁ paths₁ hf p hm hr => hr.1 (hp p ?_)⟩
  · cases h.loaded.symm.trans hf.1
    cases h.discovered.symm.trans hf.2
    exact List.mem_append_left _ hm
  · cases h'.loaded.symm.trans hf.1
    cases h'.discovered.symm.trans hf.2
    exact List.mem_append_right _ hm

/-! A folder with a document, a file that is none, and settings for which documents end in that file after a step up. -/

def steppingSettings : String := "\x7b\"schema_suffix\": \"/../b.txt\"\x7d"

def workFolder : FileTree :=
  ⟨["w"], [(["w"], .folder), (["w", "a.model.xml"], .file "<Model name='A'/>".toUTF8),
    (["w", "b.txt"], .file "<Model name='B'/>".toUTF8), (["w", "c.json"], .file steppingSettings.toUTF8)]⟩

theorem isTree_workFolder : workFolder.IsTree :=
  ⟨by decide +kernel, by decide +kernel, by decide +kernel, by decide +kernel⟩

def workInputs : List String := ["a.model.xml", "."]

theorem discover_workInputs {t : FileTree} {suffix : Value} (found : List Path)
    (hl : (workInputs.mapM fun input => t.documentsAt suffix (.ofText input)).toOption =
      some [[⟨0, ["a.model.xml"]⟩], found])
    (he : (⟨0, ["a.model.xml"]⟩ :: found).eraseDups = paths) (hs : paths.Pairwise (Path.before · ·)) :
    t.discover suffix workInputs = .ok paths :=
  FileTree.discover_of_mapM (eq_ok_of_toOption hl) (by simpa using he) hs

def plainOptions : Options := { Options.default with inputs := workInputs, outputDir := some "out" }

theorem read_plainOptions : Options.read ["a.model.xml", ".", "--output-dir", "out"] = .ok plainOptions := rfl

/-- Without the settings no other document is found, however often the run is repeated. -/
theorem tree_perform_again_plain :
    let arguments := ["a.model.xml", ".", "--output-dir", "out"]
    let first := (Invocation.perform Registry.builtin workFolder arguments).session.tree
    workFolder.IsTree ∧ (∀ o, Options.read arguments = .ok o → SearchesDown o workFolder) ∧
      (∀ o, Options.read arguments = .ok o → IsUndisturbed o workFolder first) ∧
      first.names ["w", "out"] = ["A.Entity.g.cs", "A.DTO.g.cs"] ∧
      (Invocation.perform Registry.builtin first arguments).session.tree = first := by
  intro arguments first
  let paths : List Path := [⟨0, ["a.model.xml"]⟩]
  let g : Generator := CSharp.generator .default .default
  have hsorted : paths.Pairwise (Path.before · ·) := List.pairwise_singleton ..
  have hp : Prepares Registry.builtin plainOptions workFolder .default [] g paths :=
    prepares_plain (discover_workInputs paths (by decide +kernel) (by decide +kernel) hsorted) nofun
  have hfirst : first = delivered g "out" paths workFolder :=
    (congrArg (·.session.tree) (perform_eq read_plainOptions _ _)).trans (tree_of_prepares hp)
  have hp' : Prepares Registry.builtin plainOptions first .default [] g paths := by
    rw [hfirst]
    exact prepares_plain (discover_workInputs paths (by decide +kernel) (by decide +kernel) hsorted) nofun
  have hs (o : Options) (ho : Options.read arguments = .ok o) : SearchesDown o workFolder := by
    cases read_plainOptions.symm.trans ho
    intro c paths segments hf hseg
    cases hp.loaded.symm.trans hf.1
    have hpattern : Segment.ofPattern? ('*' :: (Value.text documentSuffix).display.toList) =
        some [.wild "*.model.xml"] := by decide +kernel
    cases hpattern.symm.trans hseg
    decide
  have hu (o : Options) (ho : Options.read arguments = .ok o) : IsUndisturbed o workFolder first := by
    cases read_plainOptions.symm.trans ho
    refine isUndisturbed_of_prepares hp hp' nofun ?_
    rw [hfirst]
    decide +kernel
  refine ⟨isTree_workFolder, hs, hu, ?_, tree_perform_again isTree_workFolder Registry.builtin arguments hs hu⟩
  rw [hfirst]
  decide +kernel

def steppingOptions : Options := { plainOptions with config := some "c.json" }

theorem read_steppingOptions :
    Options.read ["a.model.xml", ".", "--config", "c.json", "--output-dir", "out"] = .ok steppingOptions := rfl

theorem load_steppingSettings {t : FileTree} (h : t.find (.ofText "c.json") = .ok (.file steppingSettings.toUTF8)) :
    Settings.load t "csharp" [] (some "c.json") = .ok (Settings.default.set .schemaSuffix (.text "/../b.txt")) := by
  have hread : Json.read steppingSettings.toList = .ok (.object [("schema_suffix", .text "/../b.txt")]) := by cbv
  have hfile : Settings.readFile t (.ofText "c.json") = .ok [("schema_suffix", .text "/../b.txt")] := by
    rw [Settings.readFile_of_find h (by decide +kernel), Text.unifyLineEnds_of_not_mem (by decide +kernel),
      String.ofList_toList, Settings.ofDocument, hread]
  have hmerge : Settings.merge "csharp" [("schema_suffix", .text "/../b.txt")] [] =
      .ok (Settings.default.set .schemaSuffix (.text "/../b.txt")) := by
    refine congrArg Except.ok (Settings.eq_of_get fun n => ?_)
    cases n <;> rfl
  rw [Settings.load_eq (by decide), hfile]
  exact congrArg (Except.mapError LoadError.mismatch) hmerge

theorem prepares_stepping (h : t.find (.ofText "c.json") = .ok (.file steppingSettings.toUTF8))
    (hd : t.discover (.text "/../b.txt") workInputs = .ok paths) (hp : paths ≠ []) :
    Prepares Registry.builtin steppingOptions t (Settings.default.set .schemaSuffix (.text "/../b.txt")) []
      (CSharp.generator (Settings.default.set .schemaSuffix (.text "/../b.txt")) .default) paths where
  not_listing := rfl
  loaded := load_steppingSettings h
  checked := eq_ok_of_toOption (by decide +kernel)
  created := Registry.createWith_eq Registry.lookup_builtin_csharp _
  discovered := hd
  nonempty := hp

/-- The ending leads the second run through the folder that the first one made, to a file that was there all the time. -/
theorem tree_perform_again_stepping :
    let arguments := ["a.model.xml", ".", "--config", "c.json", "--output-dir", "out"]
    let first := (Invocation.perform Registry.builtin workFolder arguments).session.tree
    let second := (Invocation.perform Registry.builtin first arguments).session.tree
    workFolder.IsTree ∧ (∀ o, Options.read arguments = .ok o → IsUndisturbed o workFolder first) ∧
      first.names ["w", "out"] = ["A.Entity.g.cs", "A.DTO.g.cs"] ∧
      second.names ["w", "out"] = ["A.Entity.g.cs", "A.DTO.g.cs", "B.Entity.g.cs", "B.DTO.g.cs"] := by
  intro arguments first second
  let paths : List Path := [⟨0, ["a.model.xml"]⟩]
  let more : List Path := [⟨0, ["a.model.xml"]⟩, ⟨0, ["out", "..", "b.txt"]⟩]
  let c : Settings := Settings.default.set .schemaSuffix (.text "/../b.txt")
  let g : Generator := CSharp.generator c .default
  have hp : Prepares Registry.builtin steppingOptions workFolder c [] g paths := by
    refine prepares_stepping (eq_ok_of_toOption (by decide +kernel)) (discover_workInputs [] ?_ ?_ ?_) nofun
    · decide +kernel
    · decide +kernel
    · exact List.pairwise_singleton ..
  have hfirst : first = delivered g "out" paths workFolder :=
    (congrArg (·.session.tree) (perform_eq read_steppingOptions _ _)).trans (tree_of_prepares hp)
  have hp' : Prepares Registry.builtin steppingOptions first c [] g more := by
    rw [hfirst]
    refine prepares_stepping (eq_ok_of_toOption (by decide +kernel))
      (discover_workInputs [⟨0, ["out", "..", "b.txt"]⟩] ?_ ?_ ?_) nofun
    · decide +kernel
    · decide +kernel
    · decide +kernel
  have hsecond : second = delivered g "out" more first :=
    (congrArg (·.session.tree) (perform_eq read_steppingOptions _ _)).trans (tree_of_prepares hp')
  refine ⟨isTree_workFolder, fun o ho => ?_, ?_, ?_⟩
  · cases read_steppingOptions.symm.trans ho
    refine isUndisturbed_of_prepares hp hp' (fun name hn => ?_) ?_
    · cases hn
      rw [hfirst]
      decide +kernel
    · rw [hfirst]
      decide +kernel
  · rw [hfirst]
    decide +kernel
  · rw [hsecond, hfirst]
    decide +kernel

end CommandLine

end ModelForge
