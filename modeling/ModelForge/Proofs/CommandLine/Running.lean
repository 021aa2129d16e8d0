import ModelForge.CommandLine.Invocation

/-! The stages of a run one by one. Until there are artifacts they only ask: they leave the tree as it is and print no
more than warnings. The line that closes a summary is printed by the last of them only. -/

namespace ModelForge.CommandLine

variable {α β ε : Type} {r : Registry} {o : Options} {t u : FileTree} {s s' : Session} {d : Delivery}

def Session.add (s : Session) (ps : List Printed) : Session := { s with printed := s.printed ++ ps }

@[simp] theorem Session.add_tree (s : Session) (ps : List Printed) : (s.add ps).tree = s.tree := rfl

@[simp] theorem Session.add_printed (s : Session) (ps : List Printed) : (s.add ps).printed = s.printed ++ ps := rfl

@[simp] theorem Session.add_nil (s : Session) : s.add [] = s := by simp [add]

@[simp] theorem Session.add_add (s : Session) (ps qs : List Printed) : (s.add ps).add qs = s.add (ps ++ qs) := by
  simp [add]

/-! Running one stage after another. -/

theorem run_bind_of_ok {x : Run α} {a : α} (h : x.run s = (.ok a, s')) (f : α → Run β) : (x >>= f).run s = (f a).run s' := by
  change (match x.run s with | (r, u) => ExceptT.bindCont f r u) = _
  rw [h]
  rfl

theorem run_bind_of_error {x : Run α} {e : Failure} (h : x.run s = (.error e, s')) (f : α → Run β) :
    (x >>= f).run s = (.error e, s') := by
  change (match x.run s with | (r, u) => ExceptT.bindCont f r u) = _
  rw [h]
  rfl

theorem run_print (p : Printed) (s : Session) : (print p).run s = (.ok (), s.add [p]) := rfl

theorem run_forIn {f : α → Run (ForInStep PUnit)} {ps : α → List Printed}
    (h : ∀ a s, (f a).run s = (.ok (.yield PUnit.unit), s.add (ps a))) (l : List α) (s : Session) :
    (forIn l PUnit.unit fun a _ => f a).run s = (.ok PUnit.unit, s.add (l.flatMap ps)) := by
  induction l generalizing s with
  | nil => rw [List.flatMap_nil, Session.add_nil]; rfl
  | cons a l ih =>
    rw [List.forIn_cons, run_bind_of_ok (h a s), List.flatMap_cons, ← Session.add_add]
    exact ih _

theorem run_forIn_print (f : α → Printed) (l : List α) (s : Session) :
    (forIn l PUnit.unit fun a _ => do
      print (f a)
      pure (ForInStep.yield PUnit.unit) : Run PUnit).run s = (.ok PUnit.unit, s.add (l.map f)) := by
  have h (a : α) (s : Session) : (do
      print (f a)
      pure (ForInStep.yield PUnit.unit) : Run (ForInStep PUnit)).run s = (.ok (.yield PUnit.unit), s.add [f a]) := rfl
  rw [List.map_eq_flatMap]
  exact run_forIn h l s

/-! What the early stages ask. -/

/-- A stage that changes nothing and gives a value just if the answer to a question does. -/
def Asks (x : Run α) (s : Session) (answer : Except ε α) : Prop :=
  (∀ a, answer = .ok a → x.run s = (.ok a, s)) ∧ ∀ e, answer = .error e → ∃ f, x.run s = (.error f, s)

theorem run_tree (s : Session) : (tree).run s = (.ok s.tree, s) := rfl

theorem asks_loadSettings (o : Options) (s : Session) :
    Asks (loadSettings o) s (Settings.load s.tree (Text.lower o.language) (overrides o) o.config) := by
  unfold loadSettings
  refine ⟨fun c h => ?_, fun e h => ?_⟩
  · rw [run_bind_of_ok (run_tree s), h]
    rfl
  · rw [run_bind_of_ok (run_tree s), h]
    cases e <;> exact ⟨_, rfl⟩

theorem asks_makeGenerator (r : Registry) (o : Options) (c : Settings) (s : Session) :
    Asks (makeGenerator r o c) s ((r.createWith o.language c).map (·.2)) := by
  unfold makeGenerator
  cases r.createWith o.language c with
  | ok p => exact ⟨fun g h => by cases h; rfl, nofun⟩
  | error e => exact ⟨nofun, fun _ _ => by cases e <;> exact ⟨_, rfl⟩⟩

theorem asks_findUnits (o : Options) (c : Settings) (s : Session) :
    Asks (findUnits o c) s (s.tree.units (c.get .schemaSuffix) o.inputs) := by
  unfold findUnits
  refine ⟨fun us h => ?_, fun e h => ?_⟩
  · rw [run_bind_of_ok (run_tree s), h]
    rfl
  · rw [run_bind_of_ok (run_tree s), h]
    cases e <;> exact ⟨_, rfl⟩

theorem checkSettings_of_ok {c : Settings} {ws : List String} (h : c.check = .ok ws) (s : Session) :
    (checkSettings c).run s = (.ok (), s.add (ws.map warning)) := by
  simp only [checkSettings, h]
  exact run_bind_of_ok (run_forIn_print ..) _

theorem checkSettings_of_error {c : Settings} {m : Mismatch} (h : c.check = .error m) (s : Session) :
    (checkSettings c).run s = (.error (.mismatch m), s) := by
  simp only [checkSettings, h]
  rfl

/-! The line that closes a summary, and what is printed before there is one. -/

def countedLine (compiled total skipped : Nat) : Printed :=
  .line [.styled .green "✓",
    .plain (" " ++ toString compiled ++ " of " ++ toString total ++ " model documents compiled (" ++ toString skipped ++
      " skipped)")]

namespace Printed

def IsCount (p : Printed) : Prop := ∃ compiled total skipped, p = countedLine compiled total skipped

def styles : Printed → List (Option Style)
  | line t => t.map (·.style)
  | _ => []

theorem not_isCount {p : Printed} (h : p.styles ≠ [some .green, none]) : ¬ p.IsCount := by
  rintro ⟨n, m, k, rfl⟩
  exact h rfl

end Printed

theorem not_isCount_of_mem_map {f : α → Printed} {l : List α} (h : ∀ a, (f a).styles ≠ [some .green, none]) :
    ∀ p ∈ l.map f, ¬ p.IsCount := by
  intro p hp
  obtain ⟨a, -, rfl⟩ := List.mem_map.1 hp
  exact Printed.not_isCount (h a)

theorem not_isCount_warning (ws : List String) : ∀ p ∈ ws.map warning, ¬ p.IsCount :=
  not_isCount_of_mem_map fun w => by simp [warning, Printed.styles, Span.styled]

/-- A stage that leaves the tree as it is and prints no line that closes a summary. -/
def Uncounted (x : Run α) (s : Session) : Prop := ∃ e ps, x.run s = (e, s.add ps) ∧ ∀ p ∈ ps, ¬ p.IsCount

theorem uncounted_of_run_eq {x : Run α} {e : Except Failure α} (h : x.run s = (e, s)) : Uncounted x s :=
  ⟨e, [], by rw [h, Session.add_nil], nofun⟩

theorem uncounted_print {p : Printed} (h : ¬ p.IsCount) (s : Session) : Uncounted (print p) s :=
  ⟨_, [p], run_print p s, fun _ hp => List.mem_singleton.1 hp ▸ h⟩

theorem uncounted_bind_of_ok {x : Run α} {f : α → Run β} {a : α} {ps : List Printed} (h : x.run s = (.ok a, s.add ps))
    (hp : ∀ p ∈ ps, ¬ p.IsCount) (hf : Uncounted (f a) (s.add ps)) : Uncounted (x >>= f) s := by
  obtain ⟨e, qs, hr, hq⟩ := hf
  refine ⟨e, ps ++ qs, by rw [run_bind_of_ok h, hr, Session.add_add], fun p hm => ?_⟩
  exact (List.mem_append.1 hm).elim (hp p) (hq p)

theorem Uncounted.bind {x : Run α} {f : α → Run β} (h : Uncounted x s) (hf : ∀ a s, Uncounted (f a) s) :
    Uncounted (x >>= f) s := by
  obtain ⟨e | a, ps, hr, hp⟩ := h
  · exact ⟨.error e, ps, run_bind_of_error hr f, hp⟩
  · exact uncounted_bind_of_ok hr hp (hf a _)

theorem Asks.uncounted_bind {x : Run α} {f : α → Run β} {answer : Except ε α} (h : Asks x s answer)
    (hf : ∀ a, answer = .ok a → Uncounted (f a) s) : Uncounted (x >>= f) s := by
  cases ha : answer with
  | ok a =>
    have hr : x.run s = (.ok a, s.add []) := by rw [h.1 a ha, Session.add_nil]
    refine uncounted_bind_of_ok hr nofun ?_
    rw [Session.add_nil]
    exact hf a ha
  | error e =>
    obtain ⟨e', he⟩ := h.2 e ha
    exact uncounted_of_run_eq (run_bind_of_error he f)

theorem uncounted_mapM {f : α → Run β} (h : ∀ a s, Uncounted (f a) s) (l : List α) (s : Session) :
    Uncounted (l.mapM f) s := by
  induction l generalizing s with
  | nil => exact uncounted_of_run_eq rfl
  | cons a l ih =>
    rw [List.mapM_cons]
    exact (h a s).bind fun b s => (ih s).bind fun bs s => uncounted_of_run_eq rfl

theorem uncounted_listLanguages (r : Registry) (s : Session) : Uncounted (listLanguages r) s := by
  refine (uncounted_of_run_eq (run_tree s)).bind fun t s => (uncounted_mapM (fun language s => ?_) _ s).bind fun rows s => ?_
  · cases r.info t language <;> exact uncounted_of_run_eq rfl
  · exact uncounted_print (Printed.not_isCount (by simp [Printed.styles])) s

/-! What the late stages print. -/

def duplicateLines (cs : List Compilation) : List Printed :=
  (duplicates ((artifactsOf cs).map (·.name))).map duplicateLine

theorem deliver_of_ok {cs : List Compilation} {directory : String}
    (h : s.tree.deliver (.ofText directory) (artifactsOf cs) = (u, .ok d)) :
    (deliver cs directory).run s = (.ok (cs.map (Report.ofDelivery d)),
      ⟨u, s.printed ++ duplicateLines cs ++ [writtenLine d.written.length directory]⟩) := by
  rw [deliver, run_bind_of_ok (run_forIn_print ..), run_bind_of_ok (run_tree _), Session.add_tree, h]
  rfl

theorem deliver_of_error {cs : List Compilation} {directory : String} {e : DeliveryError}
    (h : s.tree.deliver (.ofText directory) (artifactsOf cs) = (u, .error e)) :
    ∃ f, (deliver cs directory).run s = (.error f, ⟨u, s.printed ++ duplicateLines cs⟩) := by
  rw [deliver, run_bind_of_ok (run_forIn_print ..), run_bind_of_ok (run_tree _), Session.add_tree, h]
  cases e <;> exact ⟨_, rfl⟩

theorem run_showSources (cs : List Compilation) (s : Session) :
    (showSources cs).run s = (.ok (cs.map .ofCompilation), s.add ((artifactsOf cs).map fun a => .source a.name a.source)) :=
  run_bind_of_ok (run_forIn_print ..) _

def noteLine (note : String) : Printed := .line [.plain "  ", .styled .yellow "•", .plain (" " ++ note)]

def summaryTable (rows : List (List StyledText)) : List Printed :=
  if rows.isEmpty then [] else [.table "📊 Generation Summary" ["Model", "Status", "Details"] rows]

def summaryNotes (verbose : Bool) (reports : List Report) : List Printed :=
  if verbose then reports.flatMap fun r => r.compilation.outcome.warnings.map noteLine else []

def summary (verbose : Bool) (reports : List Report) : List Printed :=
  summaryTable (reports.filterMap (Report.row? verbose)) ++ summaryNotes verbose reports ++ [countLine reports]

theorem run_printSummary (reports : List Report) (verbose : Bool) (s : Session) :
    (printSummary reports verbose).run s = (.ok (), s.add (summary verbose reports)) := by
  have hnotes (r : Report) (s : Session) : (do
      for w in r.compilation.outcome.warnings do printLine [.plain "  ", .styled .yellow "•", .plain (" " ++ w)]
      pure (ForInStep.yield PUnit.unit) : Run (ForInStep PUnit)).run s =
        (.ok (.yield PUnit.unit), s.add (r.compilation.outcome.warnings.map noteLine)) :=
    run_bind_of_ok (run_forIn_print noteLine _ s) _
  have htail (s : Session) : (do
      if verbose then
        for r in reports do
          for w in r.compilation.outcome.warnings do printLine [.plain "  ", .styled .yellow "•", .plain (" " ++ w)]
      print (countLine reports) : Run Unit).run s = (.ok (), s.add (summaryNotes verbose reports ++ [countLine reports])) := by
    cases verbose with
    | false => exact run_print _ _
    | true =>
      rw [← Session.add_add]
      exact (run_bind_of_ok (run_forIn hnotes reports s) _).trans (run_print _ _)
  rw [printSummary, summary, summaryTable, List.append_assoc]
  cases hr : (reports.filterMap (Report.row? verbose)).isEmpty with
  | true => exact htail s
  | false =>
    rw [← Session.add_add]
    exact (run_bind_of_ok (run_print _ s) _).trans (htail _)

theorem mem_summaryNotes {verbose : Bool} {reports : List Report} {p : Printed} (h : p ∈ summaryNotes verbose reports) :
    ∃ note, p = noteLine note := by
  unfold summaryNotes at h
  split at h
  · obtain ⟨r, -, hp⟩ := List.mem_flatMap.1 h
    obtain ⟨note, -, rfl⟩ := List.mem_map.1 hp
    exact ⟨note, rfl⟩
  · cases h

theorem mem_summaryTable {rows : List (List StyledText)} {p : Printed} (h : p ∈ summaryTable rows) :
    rows ≠ [] ∧ p = .table "📊 Generation Summary" ["Model", "Status", "Details"] rows := by
  unfold summaryTable at h
  split at h
  · cases h
  · next hr => exact ⟨fun he => hr (List.isEmpty_iff.2 he), List.mem_singleton.1 h⟩

end ModelForge.CommandLine
