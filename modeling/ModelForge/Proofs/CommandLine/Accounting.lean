import ModelForge.Proofs.CommandLine.Preparing
import ModelForge.Proofs.Compilation
import ModelForge.Proofs.Delivery

/-! The account that a run gives of its documents. Every one of them is compiled, skipped or failed, and the summary says
which. What failed because of a file is kept by the name of the file only. That is enough, because all artifacts of one
name are written or none is, and a skipped document has no artifacts. -/

namespace ModelForge

namespace FileTree

variable {t after made : FileTree} {directory : Path} {a b : Artifact} {as before rest : List Artifact} {d : Delivery}

/-- An artifact that means something directly in the folder and can be opened after others had their turn. -/
def IsWritten (t : FileTree) (directory : Path) (before : List Artifact) (a : Artifact) : Prop :=
  t.LandsIn directory a ∧ ∃ u, (t.deliver directory before).1.write (target directory a) a.source.toUTF8 = .ok u

theorem accepts_iff_isWritten (hz : ∀ x ∈ before, x.name.toList.contains '\x00' = false)
    (hm : t.makeFolder directory = (made, none)) :
    made.accepts directory a = true ↔ t.IsWritten directory before a := by
  constructor
  · intro ha
    refine ⟨landsIn_of_accepts_made hm ha, ?_⟩
    cases hw : (t.deliver directory before).1.write (target directory a) a.source.toUTF8 with
    | ok u => exact ⟨u, rfl⟩
    | error f =>
      have hf := accepts_eq_false_of_write_error hz hm hw
      exact absurd ha (Bool.eq_false_iff.1 hf)
  · rintro ⟨⟨hn, name, hr⟩, u, hw⟩
    have hhome := (addsFolders_made hm).1.home_eq
    have hdirect : (made.resolve (target directory a)).dropLast = made.resolve directory := by
      rw [resolve_congr hhome, resolve_congr hhome, hr, List.dropLast_concat]
    have hopen : made.isOpenable (target directory a) = true := by
      rw [(sameFolders_deliver hz hm).isOpenable_eq, ← Bool.not_eq_false]
      intro hf
      obtain ⟨f, he⟩ := exists_write_error hf a.source.toUTF8
      rw [hw] at he
      cases he
    exact accepts_iff.2 ⟨hn, decide_eq_true hdirect, hopen⟩

theorem mem_refusals_iff (h : t.deliver directory as = (after, .ok d)) (hs : as = before ++ a :: rest) :
    a.name ∈ Entries.keys d.refusals ↔ ¬ t.IsWritten directory before a := by
  obtain ⟨made, hm, hz⟩ := exists_of_deliver h
  obtain ⟨e, he, -, hr⟩ := deliver_eq hz hm
  obtain rfl : d = e := Except.ok.inj (Prod.mk.inj (h.symm.trans he)).2
  have hb : ∀ x ∈ before, x.name.toList.contains '\x00' = false := fun x hx => hz x (by simp [hs, hx])
  rw [hr, ← accepts_iff_isWritten hb hm, Bool.not_eq_true]
  -- Artifacts of one name have one target, so that all of them are accepted or none is.
  constructor
  · rintro ⟨x, -, hn, hx⟩
    rwa [accepts_congr hn] at hx
  · intro ha
    exact ⟨a, by simp [hs], rfl, ha⟩

end FileTree

namespace CommandLine

variable {t : FileTree} {c : Settings} {ws : List String} {g : Generator} {paths : List Path}
  {isLost : Artifact → Prop}

inductive Status where
  | compiled
  | skipped
  | failed
  deriving DecidableEq, Repr

namespace Status

def cell : Status → Span
  | compiled => .styled .green "✓"
  | skipped => .styled .yellow "skipped"
  | failed => .styled .red "✗ failed"

/-- When a document has a status: it is skipped if its text cannot be read or is no model, and otherwise it fails if there
are no sources for it or one of them is lost. -/
def Holds (t : FileTree) (g : Generator) (isLost : Artifact → Prop) (p : Path) : Status → Prop
  | compiled => ∃ text d as, t.readText p = .ok text ∧ ModelDocument.read (some text) = .ok d ∧
      g.generate d.schema = .ok as ∧ ∀ a ∈ as, ¬ isLost a
  | skipped => (∃ fault, t.readText p = .error fault) ∨
      ∃ text reason, t.readText p = .ok text ∧ ModelDocument.read (some text) = .error reason
  | failed => ∃ text d, t.readText p = .ok text ∧ ModelDocument.read (some text) = .ok d ∧
      ((∃ e, g.generate d.schema = .error e) ∨ ∃ as, g.generate d.schema = .ok as ∧ ∃ a ∈ as, isLost a)

end Status

namespace Report

variable {p : Path} {r : Report}

/-- The unwritten artifacts of a report are those of its document that are lost. -/
def IsFair (isLost : Artifact → Prop) (r : Report) : Prop := r.unwritten = [] ↔ ∀ a ∈ r.compilation.artifacts, ¬ isLost a

theorem isFair_ofCompilation (c : Compilation) : (ofCompilation c).IsFair fun _ => False :=
  ⟨fun _ _ _ => id, fun _ => rfl⟩

theorem isFair_ofDelivery (d : Delivery) (c : Compilation) :
    (ofDelivery d c).IsFair fun a => a.name ∈ Entries.keys d.refusals := by
  simp only [IsFair, ofDelivery, List.filterMap_eq_nil_iff, Option.map_eq_none_iff, Entries.find?_eq_none_iff]

def status (r : Report) : Status :=
  match r.failure?, r.skipReason? with
  | some _, _ => .failed
  | none, some _ => .skipped
  | none, none => .compiled

def details (r : Report) : String :=
  match r.failure?, r.skipReason? with
  | some message, _ => message
  | none, some reason => reason
  | none, none => ", ".intercalate (r.compilation.artifacts.map (·.name))

theorem row?_eq (verbose : Bool) (r : Report) :
    r.row? verbose = if verbose || r.status != .compiled then
      some [[.plain r.compilation.identifier], [r.status.cell], [.plain r.details]] else none := by
  unfold row? status details
  cases hf : r.failure? <;> cases hs : r.skipReason? <;> simp [Status.cell]

theorem isCompiled_eq (r : Report) : r.isCompiled = decide (r.status = .compiled) := by
  unfold isCompiled status
  cases hf : r.failure? <;> cases hs : r.skipReason? <;> simp

theorem IsFair.status_of_skipped {reason : SkipReason} (h : r.IsFair isLost)
    (ho : r.compilation.outcome = .skipped reason) : r.status = .skipped := by
  have hu : r.unwritten = [] := h.2 (by simp [Compilation.artifacts, ho, Outcome.artifacts])
  simp [status, failure?, skipReason?, hu, ho]

theorem status_of_failed {e : CompilationError} (ho : r.compilation.outcome = .failed e) : r.status = .failed := by
  cases hu : r.unwritten <;> simp [status, failure?, ho, hu]

theorem status_of_compiled {as : List Artifact} {ws : List String} {summary : Summary}
    (ho : r.compilation.outcome = .compiled as ws summary) :
    r.status = if r.unwritten = [] then .compiled else .failed := by
  cases hu : r.unwritten <;> simp [status, failure?, skipReason?, ho, hu]

theorem IsFair.skipReason?_isSome (h : r.IsFair isLost) : r.skipReason?.isSome = decide (r.status = .skipped) := by
  cases ho : r.compilation.outcome with
  | compiled as ws summary =>
    rw [status_of_compiled ho]
    split <;> simp [skipReason?, ho]
  | skipped reason => simp [h.status_of_skipped ho, skipReason?, ho]
  | failed e => simp [status_of_failed ho, skipReason?, ho]

theorem IsFair.holds_iff_of_generated {text : String} {d : ModelDocument} {as : List Artifact} {ws : List String}
    {summary : Summary} (h : r.IsFair isLost) (ht : t.readText p = .ok text) (hd : ModelDocument.read (some text) = .ok d)
    (hg : g.generate d.schema = .ok as) (ho : r.compilation.outcome = .compiled as ws summary) (s : Status) :
    s.Holds t g isLost p ↔ s = r.status := by
  have hl : r.unwritten = [] ↔ ∀ a ∈ as, ¬ isLost a := by
    have hl := h
    rwa [IsFair, Compilation.artifacts, ho] at hl
  rw [status_of_compiled ho]
  by_cases hu : r.unwritten = []
  · have hkept : ∀ a ∈ as, ¬ isLost a := hl.1 hu
    rw [if_pos hu]
    cases s with
    | compiled => simpa [Status.Holds, ht, hd, hg] using hkept
    | skipped => simp [Status.Holds, ht, hd]
    | failed => simpa [Status.Holds, ht, hd, hg] using hkept
  · have hlost : ∃ a ∈ as, isLost a :=
      Classical.byContradiction fun hn => hu (hl.2 fun a ha hla => hn ⟨a, ha, hla⟩)
    rw [if_neg hu]
    cases s with
    | compiled => simpa [Status.Holds, ht, hd, hg] using hlost
    | skipped => simp [Status.Holds, ht, hd]
    | failed => simpa [Status.Holds, ht, hd, hg] using hlost

theorem IsFair.holds_iff (h : r.IsFair isLost) (hr : r.compilation = g.compile (t.unit p))
    (hw : ∀ d : ModelDocument, ∃ ws, g.warnings d.schema = .ok ws) (s : Status) :
    s.Holds t g isLost p ↔ s = r.status := by
  cases ht : t.readText p with
  | error fault =>
    have hu : ModelDocument.read (t.unit p).text = .error .noContent := by
      rw [FileTree.unit, ht]
      rfl
    have ho : r.compilation.outcome = .skipped .noContent := by rw [hr, Generator.compile_of_read_error hu]
    rw [h.status_of_skipped ho]
    cases s <;> simp [Status.Holds, ht]
  | ok text =>
    have hu : (t.unit p).text = some text := by
      rw [FileTree.unit, ht]
      rfl
    cases hd : ModelDocument.read (some text) with
    | error reason =>
      have ho : r.compilation.outcome = .skipped reason := by rw [hr, Generator.compile_of_read_error (hu ▸ hd)]
      rw [h.status_of_skipped ho]
      cases s <;> simp [Status.Holds, ht, hd]
    | ok d =>
      obtain ⟨ws, hws⟩ := hw d
      have hc : r.compilation.outcome = g.compileDocument d := by rw [hr, Generator.compile_of_read_ok (hu ▸ hd)]
      cases hg : g.generate d.schema with
      | error e =>
        have ho : r.compilation.outcome = .failed (.generation e) := by simp only [hc, Generator.compileDocument, hws, hg]
        rw [status_of_failed ho]
        cases s <;> simp [Status.Holds, ht, hd, hg]
      | ok as =>
        have ho : r.compilation.outcome = .compiled as (d.warnings ++ ws) (d.schema.summary g.language) := by
          simp only [hc, Generator.compileDocument, hws, hg]
        exact h.holds_iff_of_generated ht hd hg ho s

end Report

/-! The summary. -/

variable {r : Registry} {o : Options}

def summaryRows (verbose : Bool) (status : Path → Status) (details : Path → String) (paths : List Path) :
    List (List StyledText) :=
  (paths.filter fun p => verbose || status p != .compiled).map fun p =>
    [[.plain p.display], [(status p).cell], [.plain (details p)]]

theorem summary_eq {report : Path → Report} (hid : ∀ p, (report p).compilation.identifier = p.display)
    (hf : ∀ p, (report p).IsFair isLost) (verbose : Bool) (paths : List Path) :
    summary verbose (paths.map report) =
      summaryTable (summaryRows verbose (fun p => (report p).status) (fun p => (report p).details) paths) ++
        summaryNotes verbose (paths.map report) ++
        [countedLine (paths.countP fun p => (report p).status = .compiled) paths.length
          (paths.countP fun p => (report p).status = .skipped)] := by
  have hrows : (paths.map report).filterMap (Report.row? verbose) =
      summaryRows verbose (fun p => (report p).status) (fun p => (report p).details) paths := by
    rw [summaryRows, ← List.filterMap_eq_filter, List.map_filterMap, List.filterMap_map]
    refine List.filterMap_congr fun p _ => ?_
    show (report p).row? verbose = _
    rw [Report.row?_eq, hid, Option.guard]
    split <;> rfl
  have hcompiled : (paths.map report).countP (·.isCompiled) = paths.countP fun p => (report p).status = .compiled := by
    rw [List.countP_map]
    exact List.countP_congr fun p _ => by simp [Report.isCompiled_eq]
  have hskipped : (paths.map report).countP (·.skipReason?.isSome) =
      paths.countP fun p => (report p).status = .skipped := by
    rw [List.countP_map]
    exact List.countP_congr fun p _ => by simp [(hf p).skipReason?_isSome]
  rw [summary, hrows, countLine, hcompiled, hskipped, List.length_map, countedLine]

/-- Neither a count nor a table. -/
def Printed.IsOther (p : Printed) : Prop := ¬ p.IsCount ∧ ∀ title columns rows, p ≠ .table title columns rows

structure Accounts (t : FileTree) (verbose : Bool) (g : Generator) (isLost : Artifact → Prop) (paths : List Path)
    (status : Path → Status) (i : Invocation) : Prop where
  exit_eq : i.exit = .ok 0
  status_iff : ∀ p ∈ paths, ∀ s : Status, s.Holds t g isLost p ↔ s = status p
  /-- There is one table at most and one count, and what is counted and listed are the statuses. -/
  printed_eq : ∃ before details notes, i.session.printed = before ++
      summaryTable (summaryRows verbose status details paths) ++ notes ++
      [countedLine (paths.countP fun p => status p = .compiled) paths.length (paths.countP fun p => status p = .skipped)] ∧
    ∀ p ∈ before ++ notes, p.IsOther

/-- Which artifacts a run loses: those that it cannot write. Without a folder it writes none and loses none. -/
def Loses (t : FileTree) (directory : String) (as : List Artifact) (after : FileTree) (isLost : Artifact → Prop) : Prop :=
  (directory = "" → after = t ∧ ∀ a, ¬ isLost a) ∧
  (directory ≠ "" → after = (t.deliver (.ofText directory) as).1 ∧
    ∀ before a rest, as = before ++ a :: rest → (isLost a ↔ ¬ t.IsWritten (.ofText directory) before a))

theorem isOther_of_styles {p : Printed} (h : p.styles ≠ []) (hc : p.styles ≠ [some .green, none]) : p.IsOther := by
  refine ⟨Printed.not_isCount hc, ?_⟩
  rintro title columns rows rfl
  exact h rfl

theorem isOther_of_mem_warnings {q : Printed} (h : q ∈ ws.map warning) : q.IsOther := by
  obtain ⟨w, -, rfl⟩ := List.mem_map.1 h
  apply isOther_of_styles <;> simp [warning, Printed.styles, Span.styled, Span.plain]

theorem isOther_of_mem_duplicateLines {cs : List Compilation} {q : Printed} (h : q ∈ duplicateLines cs) : q.IsOther := by
  obtain ⟨name, -, rfl⟩ := List.mem_map.1 h
  apply isOther_of_styles <;> simp [duplicateLine, Printed.styles, Span.styled]

theorem isOther_writtenLine (count : Nat) (directory : String) : (writtenLine count directory).IsOther := by
  apply isOther_of_styles <;> simp [writtenLine, Printed.styles, Span.styled, Span.plain]

theorem isOther_source (name code : String) : (Printed.source name code).IsOther := by
  refine ⟨Printed.not_isCount (by simp [Printed.styles]), fun title columns rows h => ?_⟩
  cases h

theorem isOther_of_mem_summaryNotes {verbose : Bool} {reports : List Report} {q : Printed}
    (h : q ∈ summaryNotes verbose reports) : q.IsOther := by
  obtain ⟨note, rfl⟩ := mem_summaryNotes h
  apply isOther_of_styles <;> simp [noteLine, Printed.styles, Span.styled, Span.plain]

theorem accounts_of_reports {make : Compilation → Report} {after : FileTree} {before : List Printed}
    (hp : Prepares r o t c ws g paths)
    (hrun : (conclude o (g.compileAll (paths.map t.unit))).run ⟨t, ws.map warning⟩ =
      (.ok ((g.compileAll (paths.map t.unit)).map make), ⟨after, before⟩))
    (hb : ∀ q ∈ before, q.IsOther) (hm : ∀ k, (make k).compilation = k) (hf : ∀ k, (make k).IsFair isLost)
    (hw : ∀ d : ModelDocument, ∃ ws, g.warnings d.schema = .ok ws) :
    (Invocation.ofRun o r t).session.tree = after ∧
      Accounts t o.verbose g isLost paths (fun p => (make (g.compile (t.unit p))).status) (Invocation.ofRun o r t) := by
  have hmap : (g.compileAll (paths.map t.unit)).map make = paths.map fun p => make (g.compile (t.unit p)) := by
    simp [Generator.compileAll]
  have hid (p : Path) : (make (g.compile (t.unit p))).compilation.identifier = p.display := by
    rw [hm]
    rfl
  have hsummary := summary_eq hid (fun p => hf _) o.verbose paths
  have hall : (run r o).run ⟨t, []⟩ = (.ok (), Session.add ⟨after, before⟩
      (summary o.verbose (paths.map fun p => make (g.compile (t.unit p))))) := by
    rw [run_of_prepares hp, run_bind_of_ok hrun, run_printSummary, hmap]
  have hi : Invocation.ofRun o r t = ⟨.ok 0, Session.add ⟨after, before⟩
      (summary o.verbose (paths.map fun p => make (g.compile (t.unit p)))), "", ""⟩ := by
    rw [Invocation.ofRun, hall]
  rw [hi]
  refine ⟨rfl, rfl, fun p _ s => ?_, before, fun p => (make (g.compile (t.unit p))).details,
    summaryNotes o.verbose (paths.map fun p => make (g.compile (t.unit p))), ?_, fun q hq => ?_⟩
  · exact (hf _).holds_iff (hm _) hw s
  · rw [Session.add_printed, hsummary]
    simp only [List.append_assoc]
  · rcases List.mem_append.1 hq with hq | hq
    · exact hb q hq
    · exact isOther_of_mem_summaryNotes hq

section Conclusions

variable (hp : Prepares r o t c ws g paths) (hw : ∀ d : ModelDocument, ∃ ws, g.warnings d.schema = .ok ws)

include hp

include hw in
/-- With an empty name of a folder the sources are shown, and nothing is lost. -/
theorem accounts_of_showSources (hd : o.outputDir = some "") :
    ∃ status, (Invocation.ofRun o r t).session.tree = t ∧
      Accounts t o.verbose g (fun _ => False) paths status (Invocation.ofRun o r t) := by
  have hrun : (conclude o (g.compileAll (paths.map t.unit))).run ⟨t, ws.map warning⟩ =
      (.ok ((g.compileAll (paths.map t.unit)).map .ofCompilation), ⟨t, ws.map warning ++
        (artifactsOf (g.compileAll (paths.map t.unit))).map fun a => .source a.name a.source⟩) := by
    rw [conclude, hd]
    exact run_showSources ..
  refine ⟨_, accounts_of_reports hp hrun (fun q hq => ?_) (fun _ => rfl) Report.isFair_ofCompilation hw⟩
  rcases List.mem_append.1 hq with hq | hq
  · exact isOther_of_mem_warnings hq
  · obtain ⟨a, -, rfl⟩ := List.mem_map.1 hq
    exact isOther_source a.name a.source

variable {directory : String} {after : FileTree} {d : Delivery} (hd : o.outputDir = some directory) (hn : directory ≠ "")

include hd hn

include hw in
theorem accounts_of_deliver
    (h : t.deliver (.ofText directory) (artifactsOf (g.compileAll (paths.map t.unit))) = (after, .ok d)) :
    ∃ status, (Invocation.ofRun o r t).session.tree = after ∧
      Accounts t o.verbose g (fun a => a.name ∈ Entries.keys d.refusals) paths status (Invocation.ofRun o r t) := by
  have hrun : (conclude o (g.compileAll (paths.map t.unit))).run ⟨t, ws.map warning⟩ =
      (.ok ((g.compileAll (paths.map t.unit)).map (.ofDelivery d)), ⟨after, ws.map warning ++
        duplicateLines (g.compileAll (paths.map t.unit)) ++ [writtenLine d.written.length directory]⟩) := by
    rw [conclude_eq_deliver hd hn]
    exact deliver_of_ok h
  refine ⟨_, accounts_of_reports hp hrun (fun q hq => ?_) (fun _ => rfl) (Report.isFair_ofDelivery d) hw⟩
  rcases List.mem_append.1 hq with hq | hq
  · rcases List.mem_append.1 hq with hq | hq
    · exact isOther_of_mem_warnings hq
    · exact isOther_of_mem_duplicateLines hq
  · rw [List.mem_singleton.1 hq]
    exact isOther_writtenLine ..

theorem not_isCount_of_deliver_error {e : DeliveryError}
    (h : t.deliver (.ofText directory) (artifactsOf (g.compileAll (paths.map t.unit))) = (after, .error e)) :
    ∀ q ∈ ((run r o).run ⟨t, []⟩).2.printed, ¬ q.IsCount := by
  intro q hq
  obtain ⟨f, hf⟩ := deliver_of_error (s := ⟨t, ws.map warning⟩) h
  rw [run_of_prepares hp, conclude_eq_deliver hd hn, run_bind_of_error hf] at hq
  rcases List.mem_append.1 hq with hq | hq
  · exact not_isCount_warning ws q hq
  · exact (isOther_of_mem_duplicateLines hq).1

end Conclusions

theorem loses_of_deliver {directory : String} {as : List Artifact} {after : FileTree} {d : Delivery}
    (hn : directory ≠ "") (h : t.deliver (.ofText directory) as = (after, .ok d)) :
    Loses t directory as after fun a => a.name ∈ Entries.keys d.refusals := by
  refine ⟨fun he => absurd he hn, fun _ => ⟨by rw [h], fun before a rest hs => ?_⟩⟩
  exact FileTree.mem_refusals_iff h hs

/-- Every document of a run that reaches its summary has one status, and the summary lists and counts them. -/
theorem accounts_of_perform {arguments : List String} {directory : String} (ho : Options.read arguments = .ok o)
    (hd : o.outputDir = some directory)
    (hc : ∃ q ∈ (Invocation.perform Registry.builtin t arguments).session.printed, q.IsCount) :
    ∃ c ws g paths isLost status, Prepares Registry.builtin o t c ws g paths ∧
      Loses t directory (artifactsOf (g.compileAll (paths.map t.unit)))
        (Invocation.perform Registry.builtin t arguments).session.tree isLost ∧
      Accounts t o.verbose g isLost paths status (Invocation.perform Registry.builtin t arguments) := by
  -- Only the last stage prints a count, so that none of the others can have failed.
  rw [perform_eq ho] at hc ⊢
  obtain ⟨q, hq, hcount⟩ : ∃ q ∈ ((run Registry.builtin o).run ⟨t, []⟩).2.printed, q.IsCount := by
    obtain ⟨ends, hi, hends⟩ := exists_ofRun_session o Registry.builtin t
    obtain ⟨q, hq, hcount⟩ := hc
    rw [hi] at hq
    rcases List.mem_append.1 hq with hq | hq
    · exact ⟨q, hq, hcount⟩
    · refine absurd hcount (Printed.not_isCount ?_)
      simp [hends q hq]
  rcases prepares_or_uncounted Registry.builtin o t with ⟨c, ws, g, paths, hp⟩ | ⟨e, ps, hrun, hps⟩
  swap
  · rw [hrun] at hq
    exact absurd hcount (hps q hq)
  obtain ⟨k, hk⟩ := Registry.eq_generator_of_createWith_builtin hp.created
  have hw (d : ModelDocument) : ∃ ws, g.warnings d.schema = .ok ws := by
    rw [hk]
    exact CSharp.exists_check_ok (fun _ => d.complete_of_mem_schema) c
  by_cases hn : directory = ""
  · rw [hn] at hd
    obtain ⟨status, ht, ha⟩ := accounts_of_showSources hp hw hd
    exact ⟨c, ws, g, paths, _, status, hp, ⟨fun _ => ⟨ht, fun _ => id⟩, fun h => absurd hn h⟩, ha⟩
  · rcases hr : t.deliver (.ofText directory) (artifactsOf (g.compileAll (paths.map t.unit))) with ⟨after, e | d⟩
    · exact absurd hcount (not_isCount_of_deliver_error hp hd hn hr q hq)
    · obtain ⟨status, ht, ha⟩ := accounts_of_deliver hp hw hd hn hr
      exact ⟨c, ws, g, paths, _, status, hp, ht ▸ loses_of_deliver hn hr, ha⟩

/-- A document whose files would lie outside the folder, and one that is compiled. -/
theorem accounts_of_perform_outside :
    let t := twoDocuments "<Model name='../Person'/>" "<Model name='Person'/>"
    let i := Invocation.perform Registry.builtin t ["a.model.xml", "b.model.xml", "--output-dir", "out"]
    Options.read ["a.model.xml", "b.model.xml", "--output-dir", "out"] = .ok twoDocumentOptions ∧
    twoDocumentOptions.outputDir = some "out" ∧ (∃ q ∈ i.session.printed, q.IsCount) ∧
    i.session.printed.getLast? = some (countedLine 1 2 0) ∧
    ∃ isLost status, Accounts t false (CSharp.generator .default .default) isLost twoDocumentPaths status i := by
  intro t i
  have hp := prepares_twoDocuments "<Model name='../Person'/>" "<Model name='Person'/>"
  have hlast : i.session.printed.getLast? = some (countedLine 1 2 0) := by
    have hi : i = Invocation.ofRun twoDocumentOptions Registry.builtin t := perform_eq read_twoDocumentOptions _ _
    rw [hi, Invocation.ofRun, run_of_prepares hp]
    decide +kernel
  have hcount : ∃ q ∈ i.session.printed, q.IsCount := ⟨_, List.mem_of_getLast? hlast, 1, 2, 0, rfl⟩
  obtain ⟨_, _, _, _, isLost, status, hq, -, ha⟩ := accounts_of_perform read_twoDocumentOptions rfl hcount
  obtain ⟨rfl, rfl, rfl, rfl⟩ := hp.unique hq
  exact ⟨read_twoDocumentOptions, rfl, hcount, hlast, isLost, status, ha⟩

/-- With an empty name for the folder a document counts as compiled, and neither of its two artifacts is written. -/
theorem compiled_unwritten :
    let t : FileTree := ⟨["w"], [(["w"], .folder), (["w", "a.model.xml"], .file "<Model name='Person'/>".toUTF8)]⟩
    let i := Invocation.perform Registry.builtin t ["a.model.xml", "--output-dir", ""]
    (Options.read ["a.model.xml", "--output-dir", ""]).toOption.map (·.outputDir) = some (some "") ∧
    ((CSharp.generator .default .default).compile (t.unit ⟨0, ["a.model.xml"]⟩)).artifacts.map (·.name) =
      ["Person.Entity.g.cs", "Person.DTO.g.cs"] ∧
    i.session.printed.getLast? = some (countedLine 1 1 0) ∧
    i.session.tree.entries.map (·.1) = [["w"], ["w", "a.model.xml"]] := by
  decide +kernel

end CommandLine

end ModelForge
