import ModelForge.Entries

/-! A batch of tasks handed to a pool of workers. Every task carries its place in the batch. Which idle worker takes which
waiting task, and when a worker is finished, is up to a schedule. -/

namespace ModelForge

structure Pool (α β : Type) where
  waiting : List (α × Nat)
  /-- The task of each worker that has one. -/
  workers : List (Option (α × Nat))
  results : List (Nat × β)

namespace Pool

inductive Event where
  | take (worker place : Nat)
  | finish (worker : Nat)

variable {α β : Type}

/-- At least one worker, whatever is asked for. -/
def size (requested : Option Int) (processors : Nat) : Nat :=
  match requested with
  | some n => max 1 n.toNat
  | none => min 32 (processors + 4)

def submit (size : Nat) (tasks : List α) : Pool α β := ⟨tasks.zipIdx, List.replicate size none, []⟩

def complete (work : α → β) (task : α × Nat) : Nat × β := (task.2, work task.1)

def step? (work : α → β) (p : Pool α β) : Event → Option (Pool α β)
  | .take worker place =>
    match p.workers[worker]?, p.waiting[place]? with
    | some none, some task => some ⟨p.waiting.eraseIdx place, p.workers.set worker (some task), p.results⟩
    | _, _ => none
  | .finish worker =>
    match p.workers[worker]? with
    | some (some task) => some ⟨p.waiting, p.workers.set worker none, complete work task :: p.results⟩
    | _ => none

def run? (work : α → β) (p : Pool α β) (schedule : List Event) : Option (Pool α β) := schedule.foldlM (step? work) p

def busy (p : Pool α β) : List (α × Nat) := p.workers.filterMap id

def IsDone (p : Pool α β) : Prop := p.waiting = [] ∧ p.busy = []

/-- The pool that some schedule ends with. -/
def Ends (work : α → β) (size : Nat) (tasks : List α) (p : Pool α β) : Prop :=
  (∃ schedule, (submit size tasks).run? work schedule = some p) ∧ p.IsDone

def collect (count : Nat) (p : Pool α β) : Option (List β) :=
  (List.range count).mapM fun place => Entries.find? place p.results

end Pool

end ModelForge
