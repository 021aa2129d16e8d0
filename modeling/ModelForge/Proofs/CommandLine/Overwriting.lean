import ModelForge.Proofs.CommandLine.Preparing
import ModelForge.Proofs.Delivery
import ModelForge.Proofs.Duplicates

/-! The announcements of names that several artifacts share. They go by the names as they are spelled, while a file is
found by the path that a name means. The two agree on names without a slash, and only there no overwrite is silent. -/

namespace ModelForge

namespace Path

theorem leadingSlashes_of_not_mem {s : List Char} (h : '/' ∉ s) : leadingSlashes s = 0 := by
  have hw : s.takeWhile (· = '/') = [] := by
    cases s with
    | nil => rfl
    | cons c s =>
      have hc : c ≠ '/' := fun he => h (he ▸ List.mem_cons_self)
      simp [hc]
  rw [leadingSlashes, hw]
  rfl

theorem ofText_of_not_mem {name : String} (h : '/' ∉ name.toList) : ofText name = ⟨0, []⟩ ∨ ofText name = ⟨0, [name]⟩ := by
  unfold ofText partsOf
  rw [leadingSlashes_of_not_mem h, Text.cutAt_of_not_mem h]
  cases hp : isPart name.toList <;> simp [hp]

end Path

namespace FileTree

variable {t : FileTree} {directory : Path} {a b : Artifact}

theorem resolve_join (t : FileTree) (directory : Path) (parts : List String) :
    t.resolve (directory.join ⟨0, parts⟩) =
      parts.foldl (fun a part => if part = ".." then a.dropLast else a ++ [part]) (t.resolve directory) :=
  List.foldl_append ..

theorem LandsIn.resolve_eq (h : t.LandsIn directory a) (hs : '/' ∉ a.name.toList) :
    t.resolve (target directory a) = t.resolve directory ++ [a.name] := by
  obtain ⟨-, name, hr⟩ := h
  have hlength := congrArg List.length hr
  rcases Path.ofText_of_not_mem hs with ht | ht
  · rw [target, ht, resolve_join] at hlength
    simp at hlength
  · rw [target, ht, resolve_join] at hlength ⊢
    by_cases hup : a.name = ".."
    · simp [hup] at hlength
    · simp [hup]

theorem LandsIn.name_eq (ha : t.LandsIn directory a) (hb : t.LandsIn directory b) (hsa : '/' ∉ a.name.toList)
    (hsb : '/' ∉ b.name.toList) (h : t.resolve (target directory a) = t.resolve (target directory b)) :
    a.name = b.name := by
  rw [ha.resolve_eq hsa, hb.resolve_eq hsb] at h
  exact List.singleton_inj.1 (List.append_cancel_left h)

end FileTree

namespace CommandLine

open FileTree (LandsIn target)

variable {r : Registry} {o : Options} {t : FileTree} {c : Settings} {ws : List String} {g : Generator} {paths : List Path}
  {directory : String}

theorem duplicateLine_injective {m n : String} (h : duplicateLine m = duplicateLine n) : m = n := by
  simpa [duplicateLine, Span.styled] using h

theorem duplicateLine_not_mem_summary (name : String) (verbose : Bool) (reports : List Report) :
    duplicateLine name ∉ summary verbose reports := by
  intro h
  rcases List.mem_append.1 h with h | h
  · rcases List.mem_append.1 h with h | h
    · cases (mem_summaryTable h).2
    · obtain ⟨note, hp⟩ := mem_summaryNotes h
      cases congrArg Printed.styles hp
  · cases congrArg Printed.styles (List.mem_singleton.1 h)

theorem duplicateLine_not_mem_warnings (name : String) (ws : List String) : duplicateLine name ∉ ws.map warning := by
  intro h
  obtain ⟨w, -, hw⟩ := List.mem_map.1 h
  cases congrArg Printed.styles hw

theorem duplicateLine_mem_iff {name : String} {names : List String} :
    duplicateLine name ∈ (duplicates names).map duplicateLine ↔ 1 < names.count name := by
  rw [← mem_duplicates]
  refine ⟨fun h => ?_, List.mem_map_of_mem⟩
  obtain ⟨n, hn, he⟩ := List.mem_map.1 h
  exact duplicateLine_injective he ▸ hn

theorem exists_run_session (h : Prepares r o t c ws g paths) (hd : o.outputDir = some directory) (hn : directory ≠ "") :
    ∃ rest, ((run r o).run ⟨t, []⟩).2 =
        ⟨(t.deliver (.ofText directory) (artifactsOf (g.compileAll (paths.map t.unit)))).1,
          ws.map warning ++ duplicateLines (g.compileAll (paths.map t.unit)) ++ rest⟩ ∧
      ∀ name, duplicateLine name ∉ rest := by
  rw [run_of_prepares h, conclude_eq_deliver hd hn]
  generalize g.compileAll (paths.map t.unit) = cs
  rcases hr : t.deliver (.ofText directory) (artifactsOf cs) with ⟨u, e | d⟩
  · obtain ⟨f, hf⟩ := deliver_of_error (s := ⟨t, ws.map warning⟩) hr
    rw [run_bind_of_error hf]
    exact ⟨[], by rw [List.append_nil], fun _ => List.not_mem_nil⟩
  · rw [run_bind_of_ok (deliver_of_ok (s := ⟨t, ws.map warning⟩) hr), run_printSummary]
    refine ⟨writtenLine d.written.length directory :: summary o.verbose (cs.map (Report.ofDelivery d)), ?_,
      fun name hm => ?_⟩
    · simp only [Session.add, List.append_assoc, List.singleton_append]
    · rcases List.mem_cons.1 hm with hw | hs
      · cases congrArg Printed.styles hw
      · exact duplicateLine_not_mem_summary name _ _ hs

structure IsAnnounced (t : FileTree) (directory : Path) (as : List Artifact) (ws : List String) (printed : List Printed) :
    Prop where
  /-- Only warnings about settings come first. -/
  printed_eq : ∃ rest, printed = ws.map warning ++ (duplicates (as.map (·.name))).map duplicateLine ++ rest ∧
    ∀ n, duplicateLine n ∉ rest
  announced_iff : ∀ n, duplicateLine n ∈ printed ↔ 1 < (as.map (·.name)).count n
  /-- Two names without a slash that mean the same file are the same name, and it is announced. -/
  same_file : ∀ before a middle b rest, as = before ++ a :: (middle ++ b :: rest) →
    t.LandsIn directory a → t.LandsIn directory b → t.resolve (target directory a) = t.resolve (target directory b) →
    '/' ∉ a.name.toList → '/' ∉ b.name.toList → a.name = b.name ∧ duplicateLine a.name ∈ printed

theorem isAnnounced_of_printed {as : List Artifact} {rest printed : List Printed}
    (hp : printed = ws.map warning ++ (duplicates (as.map (·.name))).map duplicateLine ++ rest)
    (hr : ∀ name, duplicateLine name ∉ rest) (t : FileTree) (directory : Path) :
    IsAnnounced t directory as ws printed := by
  have hiff (name : String) : duplicateLine name ∈ printed ↔ 1 < (as.map (·.name)).count name := by
    rw [hp, List.mem_append, List.mem_append, or_iff_left (hr name), or_iff_right (duplicateLine_not_mem_warnings name ws),
      duplicateLine_mem_iff]
  refine ⟨⟨rest, hp, hr⟩, hiff, fun before a middle b after has ha hb hab hsa hsb => ?_⟩
  have hname := ha.name_eq hb hsa hsb hab
  refine ⟨hname, (hiff a.name).2 ?_⟩
  rw [has, List.map_append, List.map_cons, List.map_append, List.map_cons, ← hname]
  simp only [List.count_append, List.count_cons_self]
  omega

/-- A run either has nothing to write, or it announces the names that several artifacts share, and no others. -/
theorem isAnnounced_of_perform {arguments : List String} (ho : Options.read arguments = .ok o)
    (hd : o.outputDir = some directory) (hn : directory ≠ "") (r : Registry) (t : FileTree) :
    (¬ ∃ c ws g paths, Prepares r o t c ws g paths) ∧ (Invocation.perform r t arguments).session.tree = t ∨
      ∃ c ws g paths as, Prepares r o t c ws g paths ∧ as = artifactsOf (g.compileAll (paths.map t.unit)) ∧
        (Invocation.perform r t arguments).session.tree = (t.deliver (.ofText directory) as).1 ∧
        IsAnnounced t (.ofText directory) as ws (Invocation.perform r t arguments).session.printed := by
  obtain ⟨ends, hi, hends⟩ := exists_ofRun_session o r t
  rw [perform_eq ho, hi]
  by_cases hx : ∃ c ws g paths, Prepares r o t c ws g paths
  · obtain ⟨c, ws, g, paths, hp⟩ := hx
    obtain ⟨rest, hs, hrest⟩ := exists_run_session hp hd hn
    have hnone (name : String) : duplicateLine name ∉ rest ++ ends := by
      intro hm
      rcases List.mem_append.1 hm with hm | hm
      · exact hrest name hm
      · cases hends _ hm
    rw [hs]
    exact .inr ⟨c, ws, g, paths, _, hp, rfl, rfl, isAnnounced_of_printed (List.append_assoc ..) hnone ..⟩
  · obtain ⟨e, ps, hrun, -⟩ := (prepares_or_uncounted r o t).resolve_left hx
    exact .inl ⟨hx, by rw [hrun]; rfl⟩

/-- Two documents of the same name. -/
theorem isAnnounced_of_perform_alike :
    Options.read ["a.model.xml", "b.model.xml", "--output-dir", "out"] = .ok twoDocumentOptions ∧
    twoDocumentOptions.outputDir = some "out" ∧ "out" ≠ "" ∧
    duplicateLine "Person.Entity.g.cs" ∈ (Invocation.perform Registry.builtin
      (twoDocuments "<Model name='Person'/>" "<Model name='Person'/>")
      ["a.model.xml", "b.model.xml", "--output-dir", "out"]).session.printed := by
  refine ⟨read_twoDocumentOptions, rfl, by decide, ?_⟩
  have hp := prepares_twoDocuments "<Model name='Person'/>" "<Model name='Person'/>"
  rcases isAnnounced_of_perform read_twoDocumentOptions rfl (by decide) Registry.builtin
      (twoDocuments "<Model name='Person'/>" "<Model name='Person'/>") with ⟨hn, -⟩ | ⟨_, _, _, _, _, hq, rfl, -, ha⟩
  · exact absurd ⟨_, _, _, _, hp⟩ hn
  · obtain ⟨rfl, rfl, rfl, rfl⟩ := hp.unique hq
    exact (ha.announced_iff _).2 (by decide +kernel)

/-- Two documents whose names are spelled differently and mean the same files: four files are written, two are there
afterwards, and nothing is announced. -/
theorem overwritten_silently :
    let i := Invocation.perform Registry.builtin (twoDocuments "<Model name='Person'/>" "<Model name='./Person'/>")
      ["a.model.xml", "b.model.xml", "--output-dir", "out"]
    i.session.printed = [writtenLine 4 "out", countedLine 2 2 0] ∧
      i.session.tree.names ["w", "out"] = ["Person.Entity.g.cs", "Person.DTO.g.cs"] := by
  intro i
  have hrun := run_of_prepares (prepares_twoDocuments "<Model name='Person'/>" "<Model name='./Person'/>")
  have hi : i = Invocation.ofRun twoDocumentOptions Registry.builtin _ := perform_eq read_twoDocumentOptions _ _
  rw [hi, Invocation.ofRun, hrun]
  decide +kernel

end CommandLine

end ModelForge
