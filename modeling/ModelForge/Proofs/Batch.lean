import Mathlib.Data.List.Perm.Basic
import ModelForge.Compilation
import ModelForge.Pool

/-! A batch that is compiled by a pool of workers gives what compiling its documents one after the other gives. The
invariant is that the results, together with what the unfinished tasks will give, are always the same. -/

namespace ModelForge

open scoped List

theorem mapM_eq_some_map {α β : Type} {f : α → Option β} {value : α → β} {l : List α}
    (h : ∀ a ∈ l, f a = some (value a)) : l.mapM f = some (l.map value) := by
  induction l with
  | nil => rfl
  | cons a l ih =>
    have hl := ih fun x hx => h x (List.mem_cons_of_mem a hx)
    rw [List.mapM_cons, h a List.mem_cons_self, hl]
    rfl

theorem getElem_cons_set_perm {α : Type} {l : List α} {i : Nat} {b : α} (h : l[i]? = some b) (a : α) :
    b :: l.set i a ~ a :: l := by
  obtain ⟨hi, rfl⟩ := List.getElem?_eq_some_iff.1 h
  calc l[i] :: l.set i a
    _ ~ l[i] :: a :: l.eraseIdx i := (List.set_perm_cons_eraseIdx hi a).cons _
    _ ~ a :: l[i] :: l.eraseIdx i := .swap ..
    _ ~ a :: l := (List.getElem_cons_eraseIdx_perm hi).cons a

namespace Pool

variable {α β : Type} {work : α → β}

theorem size_pos (requested : Option Int) (processors : Nat) : 0 < size requested processors := by
  cases requested with
  | none => simp only [size]; omega
  | some n => simp only [size]; omega

def unfinished (p : Pool α β) : List (α × Nat) := p.waiting ++ p.busy

def outlook (work : α → β) (p : Pool α β) : List (Nat × β) := p.unfinished.map (complete work) ++ p.results

def remaining (p : Pool α β) : Nat := p.waiting.length + p.unfinished.length

theorem step?_cases {p p' : Pool α β} {e : Event} (h : p.step? work e = some p') :
    (∃ worker place task, e = .take worker place ∧ p.workers[worker]? = some none ∧ p.waiting[place]? = some task ∧
      p' = ⟨p.waiting.eraseIdx place, p.workers.set worker (some task), p.results⟩) ∨
    (∃ worker task, e = .finish worker ∧ p.workers[worker]? = some (some task) ∧
      p' = ⟨p.waiting, p.workers.set worker none, complete work task :: p.results⟩) := by
  cases e with
  | take worker place =>
    simp only [step?] at h
    split at h
    · next task hw ht =>
      cases h
      exact .inl ⟨worker, place, task, rfl, hw, ht, rfl⟩
    · cases h
  | finish worker =>
    simp only [step?] at h
    split at h
    · next task hw =>
      cases h
      exact .inr ⟨worker, task, rfl, hw, rfl⟩
    · cases h

section

variable {p : Pool α β} {worker place : Nat} {task : α × Nat}

theorem waiting_perm (h : p.waiting[place]? = some task) : p.waiting ~ task :: p.waiting.eraseIdx place := by
  obtain ⟨hi, rfl⟩ := List.getElem?_eq_some_iff.1 h
  exact (List.getElem_cons_eraseIdx_perm hi).symm

theorem unfinished_take (hw : p.workers[worker]? = some none) (ht : p.waiting[place]? = some task) :
    unfinished (β := β) ⟨p.waiting.eraseIdx place, p.workers.set worker (some task), p.results⟩ ~ p.unfinished := by
  have hb : (p.workers.set worker (some task)).filterMap id ~ task :: p.busy := by
    simpa [busy] using (getElem_cons_set_perm hw (some task)).filterMap id
  calc p.waiting.eraseIdx place ++ (p.workers.set worker (some task)).filterMap id
    _ ~ p.waiting.eraseIdx place ++ task :: p.busy := hb.append_left _
    _ ~ task :: p.waiting.eraseIdx place ++ p.busy := List.perm_middle
    _ ~ p.unfinished := (waiting_perm ht).symm.append_right _

theorem unfinished_finish (hw : p.workers[worker]? = some (some task)) (results : List (Nat × β)) :
    p.unfinished ~ task :: unfinished ⟨p.waiting, p.workers.set worker none, results⟩ := by
  have hb : p.busy ~ task :: (p.workers.set worker none).filterMap id := by
    simpa [busy] using (getElem_cons_set_perm hw none).symm.filterMap id
  calc p.waiting ++ p.busy
    _ ~ p.waiting ++ task :: (p.workers.set worker none).filterMap id := hb.append_left _
    _ ~ task :: (p.waiting ++ (p.workers.set worker none).filterMap id) := List.perm_middle

end

theorem step?_spec {p p' : Pool α β} {e : Event} (h : p.step? work e = some p') :
    p'.outlook work ~ p.outlook work ∧ p'.remaining + 1 = p.remaining ∧ p'.workers.length = p.workers.length := by
  rcases step?_cases h with ⟨worker, place, task, rfl, hw, ht, rfl⟩ | ⟨worker, task, rfl, hw, rfl⟩
  · have hu := unfinished_take hw ht
    have hq := (waiting_perm ht).length_eq
    refine ⟨(hu.map _).append_right _, ?_, List.length_set ..⟩
    rw [List.length_cons] at hq
    simp only [remaining, hu.length_eq, hq]
    omega
  · have hu := unfinished_finish hw (complete work task :: p.results)
    refine ⟨?_, ?_, List.length_set ..⟩
    · calc (unfinished _).map (complete work) ++ complete work task :: p.results
        _ ~ (task :: unfinished _).map (complete work) ++ p.results := List.perm_middle
        _ ~ p.outlook work := (hu.symm.map _).append_right _
    · have hl := hu.length_eq
      rw [List.length_cons] at hl
      simp only [remaining, hl]
      omega

theorem run?_cons {p : Pool α β} {e : Event} {schedule : List Event} :
    p.run? work (e :: schedule) = (p.step? work e).bind (run? work · schedule) := by
  simp only [run?, List.foldlM_cons]
  rfl

theorem run?_spec {p p' : Pool α β} {schedule : List Event} (h : p.run? work schedule = some p') :
    p'.outlook work ~ p.outlook work ∧ p'.remaining + schedule.length = p.remaining ∧
      p'.workers.length = p.workers.length := by
  induction schedule generalizing p with
  | nil =>
    cases h
    exact ⟨.rfl, rfl, rfl⟩
  | cons e schedule ih =>
    rw [run?_cons, Option.bind_eq_some_iff] at h
    obtain ⟨q, hq, hr⟩ := h
    obtain ⟨ho, hm, hw⟩ := step?_spec hq
    obtain ⟨ho', hm', hw'⟩ := ih hr
    refine ⟨ho'.trans ho, ?_, hw'.trans hw⟩
    rw [List.length_cons]
    omega

theorem isDone_or_exists_step? (work : α → β) {p : Pool α β} (hw : 0 < p.workers.length) :
    p.IsDone ∨ ∃ e p', p.step? work e = some p' := by
  cases hb : p.busy with
  | cons task rest =>
    have hm : some task ∈ p.workers := by
      have : task ∈ p.workers.filterMap id := by
        rw [← busy, hb]
        exact List.mem_cons_self
      simpa using this
    obtain ⟨worker, hworker⟩ := List.mem_iff_getElem?.1 hm
    right
    refine ⟨.finish worker, ⟨p.waiting, p.workers.set worker none, complete work task :: p.results⟩, ?_⟩
    simp only [step?, hworker]
  | nil =>
    cases hq : p.waiting with
    | nil => exact .inl ⟨hq, hb⟩
    | cons task rest =>
      have hidle : p.workers[0]? = some none := by
        rw [List.getElem?_eq_getElem hw]
        have h0 := List.filterMap_eq_nil_iff.1 hb _ (List.getElem_mem hw)
        exact congrArg some h0
      right
      refine ⟨.take 0 0, ⟨p.waiting.eraseIdx 0, p.workers.set 0 (some task), p.results⟩, ?_⟩
      simp only [step?, hidle, hq, List.getElem?_cons_zero]

theorem exists_run?_isDone (work : α → β) {p : Pool α β} (hw : 0 < p.workers.length) :
    ∃ schedule p', p.run? work schedule = some p' ∧ p'.IsDone := by
  -- The induction is on what remains to do, which every step makes less.
  induction hn : p.remaining generalizing p with
  | zero =>
    refine ⟨[], p, rfl, ?_⟩
    simp only [remaining, unfinished, List.length_append] at hn
    exact ⟨List.length_eq_zero_iff.1 (by omega), List.length_eq_zero_iff.1 (by omega)⟩
  | succ n ih =>
    rcases isDone_or_exists_step? work hw with hd | ⟨e, q, hq⟩
    · exact ⟨[], p, rfl, hd⟩
    · obtain ⟨-, hm, hl⟩ := step?_spec hq
      obtain ⟨schedule, p', hr, hd⟩ := ih (p := q) (by omega) (by omega)
      refine ⟨e :: schedule, p', ?_, hd⟩
      rw [run?_cons, hq]
      exact hr

section

variable (tasks : List α) (count : Nat)

theorem unfinished_submit : (submit count tasks : Pool α β).unfinished = tasks.zipIdx := by
  simp [submit, unfinished, busy]

theorem outlook_submit : (submit count tasks : Pool α β).outlook work = tasks.zipIdx.map (complete work) := by
  rw [outlook, unfinished_submit]
  exact List.append_nil _

theorem remaining_submit : (submit count tasks : Pool α β).remaining = 2 * tasks.length := by
  rw [remaining, unfinished_submit, submit, List.length_zipIdx]
  omega

end

theorem results_eq_of_isDone {p : Pool α β} (h : p.IsDone) : p.results = p.outlook work := by
  obtain ⟨hq, hb⟩ := h
  simp [outlook, unfinished, hq, hb]

theorem collect_of_ends {tasks : List α} {count : Nat} {p : Pool α β} (h : Ends work count tasks p) :
    p.collect tasks.length = some (tasks.map work) := by
  obtain ⟨⟨schedule, hr⟩, hd⟩ := h
  -- Nothing is left when all is done, so that the results are what was to come out at the start, in some order.
  have hp : p.results ~ tasks.zipIdx.map (complete work) := by
    rw [results_eq_of_isDone hd, ← outlook_submit tasks count]
    exact (run?_spec hr).1
  have hk : (Entries.keys (tasks.zipIdx.map (complete work))) = List.range tasks.length := by
    rw [Entries.keys, List.map_map, List.range_eq_range', ← List.zipIdx_map_snd]
    rfl
  have hn : (Entries.keys p.results).Nodup := by
    rw [Entries.keys, (hp.map _).nodup_iff, ← Entries.keys, hk]
    exact List.nodup_range
  have hf : ∀ t ∈ tasks.zipIdx, Entries.find? t.2 p.results = some (work t.1) := by
    intro t ht
    have hm : complete work t ∈ p.results := hp.mem_iff.2 (List.mem_map_of_mem ht)
    exact Entries.find?_eq_some_of_mem hn hm
  calc p.collect tasks.length
    _ = tasks.zipIdx.mapM fun t => Entries.find? t.2 p.results := by
      rw [collect, List.range_eq_range', ← List.zipIdx_map_snd 0 tasks, List.mapM_map]
      rfl
    _ = some (tasks.zipIdx.map fun t => work t.1) := mapM_eq_some_map hf
    _ = some (tasks.map work) := by
      rw [← List.zipIdx_map_fst 0 tasks, List.map_map]
      simp

theorem length_workers_submit_pos (requested : Option Int) (processors : Nat) (tasks : List α) :
    0 < (submit (size requested processors) tasks : Pool α β).workers.length := by
  rw [submit, List.length_replicate]
  exact size_pos requested processors

theorem exists_ends (work : α → β) (requested : Option Int) (processors : Nat) (tasks : List α) :
    ∃ p, Ends work (size requested processors) tasks p := by
  obtain ⟨schedule, p, hr, hd⟩ := exists_run?_isDone work (length_workers_submit_pos requested processors tasks)
  exact ⟨p, ⟨schedule, hr⟩, hd⟩

end Pool

namespace Generator

open Pool

/-- Whatever is asked for, a pool finishes a batch under every schedule, and gives what compiling its documents one by one
gives. Another text for one of them, or none, changes no other result. -/
theorem batch_eq_sequential (g : Generator) (requested : Option Int) (processors : Nat) (us : List SourceUnit) :
    (∃ p, Ends g.compile (size requested processors) us p) ∧
    (∀ schedule p, (submit (size requested processors) us).run? g.compile schedule = some p →
      schedule.length ≤ 2 * us.length ∧ (p.IsDone ∨ ∃ e p', p.step? g.compile e = some p')) ∧
    ∀ p, Ends g.compile (size requested processors) us p → ∃ cs, p.collect us.length = some cs ∧
      cs.length = us.length ∧ cs = g.compileAll us ∧ (∀ (i : Nat) u, us[i]? = some u → cs[i]? = some (g.compile u)) ∧
      ∀ (k : Nat) text requested' p',
        Ends g.compile (size requested' processors) (us.modify k fun u => { u with text := text }) p' →
        ∃ cs', p'.collect us.length = some cs' ∧ ∀ j : Nat, j ≠ k → cs'[j]? = cs[j]? := by
  have hw : 0 < (submit (size requested processors) us : Pool SourceUnit Compilation).workers.length :=
    length_workers_submit_pos requested processors us
  refine ⟨exists_ends g.compile requested processors us, fun schedule p hr => ?_, fun p hp => ?_⟩
  · obtain ⟨-, hm, hl⟩ := run?_spec hr
    rw [remaining_submit] at hm
    exact ⟨by omega, isDone_or_exists_step? g.compile (hl ▸ hw)⟩
  · refine ⟨g.compileAll us, collect_of_ends hp, g.length_compileAll us, rfl, fun i u hu => ?_,
      fun k text requested' p' hp' => ?_⟩
    · rw [compileAll, List.getElem?_map, hu]
      rfl
    · have hc := collect_of_ends hp'
      rw [List.length_modify] at hc
      refine ⟨_, hc, fun j hj => ?_⟩
      rw [compileAll, List.getElem?_map, List.getElem?_map, List.getElem?_modify_ne _ _ (Ne.symm hj)]

end Generator

end ModelForge
