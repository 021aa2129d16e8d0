import ModelForge.Proofs.CommandLine.Running
import ModelForge.Proofs.Generation
import ModelForge.Proofs.Merging

/-! What a run prepares: settings, a generator and documents. What it does afterwards depends on nothing else, and a run
that does not get so far changes no file and closes no summary. -/

namespace ModelForge

namespace Settings

theorem merge_nil (language : String) : merge language [] [] = .ok default := by
  rw [merge_eq]
  rfl

theorem load_nil (t : FileTree) (language : String) : load t language [] none = .ok default := by
  show (merge language [] []).mapError LoadError.mismatch = _
  rw [merge_nil]
  rfl

end Settings

namespace Registry

theorem generators_builtin : builtin.generators = [("csharp", CSharp.generatorClass)] := rfl

theorem lookup_builtin_csharp : builtin.lookup "csharp" = .ok ("csharp", CSharp.generatorClass) := rfl

theorem eq_generatorClass_of_lookup_builtin {name key : String} {k : GeneratorClass}
    (h : builtin.lookup name = .ok (key, k)) : k = CSharp.generatorClass := by
  unfold lookup at h
  split at h
  · cases h
  · next key' _ =>
    split at h
    · next k' hk =>
      cases h
      have hm := Entries.mem_of_find?_eq_some hk
      rw [generators_builtin, List.mem_singleton] at hm
      exact congrArg Prod.snd hm
    · cases h

theorem createWith_eq {r : Registry} {name key : String} {k : GeneratorClass} (h : r.lookup name = .ok (key, k))
    (c : Settings) : (r.createWith name c).map (·.2) = (k.create c).mapError .mismatch := by
  rw [createWith, h]
  show (((k.create c).mapError CreationError.mismatch).bind fun g => .ok (k, g)).map (·.2) = _
  cases k.create c <;> rfl

theorem eq_generator_of_createWith_builtin {name : String} {c : Settings} {g : Generator}
    (h : (builtin.createWith name c).map (·.2) = .ok g) : ∃ k, g = CSharp.generator c k := by
  cases hl : builtin.lookup name with
  | error e =>
    rw [createWith, hl] at h
    cases h
  | ok p =>
    obtain ⟨key, k⟩ := p
    rw [createWith_eq hl, eq_generatorClass_of_lookup_builtin hl] at h
    exact CSharp.eq_generator_of_create (eq_ok_of_mapError_eq_ok h)

end Registry

theorem FileTree.exists_discover_of_units {t : FileTree} {suffix : Value} {inputs : List String} {us : List SourceUnit}
    (h : t.units suffix inputs = .ok us) : ∃ paths, t.discover suffix inputs = .ok paths ∧ us = paths.map t.unit := by
  obtain ⟨paths, hd, h⟩ := exists_of_bind_eq_ok h
  exact ⟨paths, hd, (Except.ok.inj h).symm⟩

namespace CommandLine

variable {r : Registry} {o : Options} {t : FileTree} {c : Settings} {ws : List String} {g : Generator} {paths : List Path}

/-- What a run has before it compiles anything: settings with their warnings, a generator, and the documents that the
arguments name. -/
structure Prepares (r : Registry) (o : Options) (t : FileTree) (c : Settings) (ws : List String) (g : Generator)
    (paths : List Path) : Prop where
  not_listing : o.listLanguages = false
  loaded : Settings.load t (Text.lower o.language) (overrides o) o.config = .ok c
  checked : c.check = .ok ws
  created : (r.createWith o.language c).map (·.2) = .ok g
  discovered : t.discover (c.get .schemaSuffix) o.inputs = .ok paths
  nonempty : paths ≠ []

theorem Prepares.unique {c' : Settings} {ws' : List String} {g' : Generator} {paths' : List Path}
    (h : Prepares r o t c ws g paths) (h' : Prepares r o t c' ws' g' paths') :
    c = c' ∧ ws = ws' ∧ g = g' ∧ paths = paths' := by
  obtain rfl := Except.ok.inj (h.loaded.symm.trans h'.loaded)
  exact ⟨rfl, Except.ok.inj (h.checked.symm.trans h'.checked), Except.ok.inj (h.created.symm.trans h'.created),
    Except.ok.inj (h.discovered.symm.trans h'.discovered)⟩

def conclude (o : Options) (cs : List Compilation) : Run (List Report) :=
  match o.outputDir.filter (· ≠ "") with
  | some directory => deliver cs directory
  | none => showSources cs

def process (o : Options) (c : Settings) (g : Generator) (us : List SourceUnit) : Run Unit :=
  if us.isEmpty then printLine [.styled .yellow ("No " ++ c.shown .schemaSuffix ++ " files found")]
  else conclude o (g.compileAll us) >>= fun reports => printSummary reports o.verbose

theorem generateAll_eq (h : o.inputs ≠ []) (r : Registry) :
    generateAll r o =
      (do
        let c ← loadSettings o
        checkSettings c
        let g ← makeGenerator r o c
        let us ← findUnits o c
        process o c g us) := by
  have hi : ¬ o.inputs.isEmpty = true := by simpa using h
  rw [generateAll, if_neg hi]
  unfold process conclude
  cases o.outputDir.filter (· ≠ "") <;> rfl

theorem run_of_prepares (h : Prepares r o t c ws g paths) :
    (run r o).run ⟨t, []⟩ =
      (conclude o (g.compileAll (paths.map t.unit)) >>= fun reports => printSummary reports o.verbose).run
        ⟨t, ws.map warning⟩ := by
  have hi : o.inputs ≠ [] := by
    intro he
    have hd := h.discovered
    rw [he, FileTree.discover_nil] at hd
    exact h.nonempty (Except.ok.inj hd).symm
  have hf : t.units (c.get .schemaSuffix) o.inputs = .ok (paths.map t.unit) := by
    rw [FileTree.units, h.discovered]
    rfl
  have hp : ¬ (paths.map t.unit).isEmpty = true := by simpa using h.nonempty
  have hs : Session.add ⟨t, []⟩ (ws.map warning) = ⟨t, ws.map warning⟩ := rfl
  rw [run, h.not_listing, if_neg Bool.false_ne_true, generateAll_eq hi,
    run_bind_of_ok ((asks_loadSettings o ⟨t, []⟩).1 c h.loaded), run_bind_of_ok (checkSettings_of_ok h.checked _), hs,
    run_bind_of_ok ((asks_makeGenerator r o c _).1 g h.created), run_bind_of_ok ((asks_findUnits o c ⟨t, _⟩).1 _ hf),
    process, if_neg hp]

theorem prepares_or_uncounted (r : Registry) (o : Options) (t : FileTree) :
    (∃ c ws g paths, Prepares r o t c ws g paths) ∨ Uncounted (run r o) ⟨t, []⟩ := by
  refine Classical.or_iff_not_imp_left.2 fun hn => ?_
  cases hlist : o.listLanguages with
  | true =>
    rw [run, hlist, if_pos rfl]
    exact uncounted_listLanguages r _
  | false =>
    rw [run, hlist, if_neg Bool.false_ne_true]
    by_cases hi : o.inputs = []
    · rw [generateAll, hi]
      exact uncounted_of_run_eq rfl
    rw [generateAll_eq hi]
    -- Each stage either ends the run or gives one more part of what has to be prepared.
    refine (asks_loadSettings o _).uncounted_bind fun c hl => ?_
    cases hc : c.check with
    | error m => exact uncounted_of_run_eq (run_bind_of_error (checkSettings_of_error hc _) _)
    | ok ws =>
      refine uncounted_bind_of_ok (checkSettings_of_ok hc _) (not_isCount_warning ws) ?_
      refine (asks_makeGenerator r o c _).uncounted_bind fun g hg => (asks_findUnits o c _).uncounted_bind fun us hu => ?_
      obtain ⟨paths, hd, rfl⟩ := FileTree.exists_discover_of_units hu
      have hempty : paths = [] := Classical.not_not.1 fun hp => hn ⟨c, ws, g, paths, hlist, hl, hc, hg, hd, hp⟩
      rw [hempty]
      exact uncounted_print (Printed.not_isCount (by simp [Printed.styles, Span.styled])) _

theorem conclude_eq_deliver {directory : String} (hd : o.outputDir = some directory) (hn : directory ≠ "")
    (cs : List Compilation) : conclude o cs = deliver cs directory := by
  rw [conclude, hd, Option.filter_some, if_pos (decide_eq_true hn)]

theorem perform_eq {arguments : List String} (h : Options.read arguments = .ok o) (r : Registry) (t : FileTree) :
    Invocation.perform r t arguments = Invocation.ofRun o r t := by
  rw [Invocation.perform, h]

theorem exists_ofRun_session (o : Options) (r : Registry) (t : FileTree) :
    ∃ ps, (Invocation.ofRun o r t).session = ((run r o).run ⟨t, []⟩).2.add ps ∧
      ∀ p ∈ ps, p.styles = [some .red, none] := by
  unfold Invocation.ofRun
  split
  · next h => exact ⟨[], by rw [h, Session.add_nil], nofun⟩
  · next message _ h =>
    refine ⟨[Invocation.errorLine message], by rw [h]; rfl, fun p hp => ?_⟩
    rw [List.mem_singleton.1 hp]
    rfl
  · next h => exact ⟨[], by rw [h, Session.add_nil], nofun⟩

theorem prepares_plain {inputs : List String} {outputDir : Option String}
    (h : t.discover (.text documentSuffix) inputs = .ok paths) (hp : paths ≠ []) :
    Prepares Registry.builtin { Options.default with inputs, outputDir } t .default [] (CSharp.generator .default .default)
      paths where
  not_listing := rfl
  loaded := Settings.load_nil t _
  checked := by
    have h := Settings.check_default
    cases hc : Settings.check .default with
    | error m =>
      rw [hc] at h
      cases h
    | ok ws =>
      rw [hc] at h
      exact congrArg Except.ok (Option.some.inj h)
  created := Registry.createWith_eq Registry.lookup_builtin_csharp .default
  discovered := h
  nonempty := hp

/-! A run of two documents with the settings that nobody changed. -/

def twoDocuments (first second : String) : FileTree :=
  ⟨["w"], [(["w"], .folder), (["w", "a.model.xml"], .file first.toUTF8), (["w", "b.model.xml"], .file second.toUTF8)]⟩

def twoDocumentPaths : List Path := [⟨0, ["a.model.xml"]⟩, ⟨0, ["b.model.xml"]⟩]

def twoDocumentOptions : Options :=
  { Options.default with inputs := ["a.model.xml", "b.model.xml"], outputDir := some "out" }

theorem read_twoDocumentOptions :
    Options.read ["a.model.xml", "b.model.xml", "--output-dir", "out"] = .ok twoDocumentOptions := rfl

theorem prepares_twoDocuments (first second : String) :
    Prepares Registry.builtin twoDocumentOptions (twoDocuments first second) .default []
      (CSharp.generator .default .default) twoDocumentPaths := by
  have hfound : ["a.model.xml", "b.model.xml"].mapM (fun input =>
      (twoDocuments first second).documentsAt (.text documentSuffix) (.ofText input)) =
        .ok [[⟨0, ["a.model.xml"]⟩], [⟨0, ["b.model.xml"]⟩]] := rfl
  have honce : twoDocumentPaths.eraseDups = twoDocumentPaths := by decide +kernel
  have hsorted : twoDocumentPaths.Pairwise (Path.before · ·) := by decide +kernel
  refine prepares_plain ?_ nofun
  rw [FileTree.discover, hfound]
  show Except.ok (twoDocumentPaths.eraseDups.mergeSort Path.before) = .ok twoDocumentPaths
  rw [honce, List.mergeSort_of_pairwise hsorted]

end CommandLine

end ModelForge
