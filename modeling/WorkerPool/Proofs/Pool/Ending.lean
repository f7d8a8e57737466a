import WorkerPool.Proofs.Pool.Delivery

/-!
# How tasks end

The endings of a row of steps are the tasks that have ended in it, each with the slot of its worker and
its outcome. A task has been begun as often as it is executed or has ended, so it ends once at most,
and a task that is over stays over.
-/

namespace WorkerPool

structure Ending (α : Type) where
  task : Nat
  worker : Nat
  outcome : Outcome α
  deriving DecidableEq, Repr

def WorkerPhase.task? : WorkerPhase → Option Nat
  | .executing task => some task
  | _ => none

namespace Pool

variable {α : Type} {plan : Plan} {p q start : Pool α} {label : Label α} {labels : List (Label α)}
  {call thread slot task : Nat} {wakes : Option Nat} {past : List (Ending α)}

def ending? (p : Pool α) : Label α → Option (Ending α)
  | .finish thread outcome => p.workers[thread]?.bind fun w =>
      w.phase.task?.map fun task => { task, worker := w.slot, outcome }
  | _ => none

def endings (p : Pool α) (label : Label α) (_ : Pool α) : List (Ending α) := (p.ending? label).toList

/-- How often a task is among those that have ended. -/
def ends (past : List (Ending α)) (task : Nat) : Nat := past.countP (·.task == task)

theorem ends_append (past more : List (Ending α)) (task : Nat) :
    ends (past ++ more) task = ends past task + ends more task :=
  List.countP_append

theorem ends_pos_iff : 0 < ends past task ↔ ∃ e ∈ past, e.task = task := by
  simp [ends, List.countP_pos_iff]

theorem endings_finish (now : p.workers[thread]? = some ⟨slot, .executing task⟩)
    (outcome : Outcome α) : p.endings (.finish thread outcome) q = [⟨task, slot, outcome⟩] := by
  simp [endings, ending?, now, WorkerPhase.task?]

theorem WorkerMove.executions {old new : WorkerPhase} (moves : WorkerMove p slot wakes old new q)
    (now : p.workers[thread]? = some ⟨slot, old⟩) (task : Nat) :
    (q.setWorker thread new).executions task = p.executions task + (new.executes task).toNat := by
  have idle : old.executes task = false := by cases moves <;> rfl
  have workers := moves.workersIn (·.executes task) now
  rw [idle] at workers
  exact workers

/-- A step begins a task, or ends one that is executed, or does neither. -/
theorem Move.ends (moves : p.Move label q) (task : Nat) :
    q.executions task + p.begins task + Pool.ends (p.endings label q) task =
      p.executions task + q.begins task := by
  cases moves with
  | @call call wakes old new r now moves =>
    have executions : (r.setPhase call new).executions task = p.executions task := moves.workersIn _
    have begins : (r.setPhase call new).begins task = p.begins task :=
      congrArg (fun begun => (begun.map (·.1)).count task) moves.begun
    rw [executions, begins]
    rfl
  | @thread call granted old new r now moves =>
    have executions : (r.setPhase call new).executions task = p.executions task :=
      moves.executions task
    have begins : (r.setPhase call new).begins task = p.begins task :=
      congrArg (fun begun => (begun.map (·.1)).count task) moves.begun
    rw [executions, begins]
    rfl
  | @worker thread wakes slot old new r now moves =>
    have begins : (r.setWorker thread new).begins task = _ := moves.begins task
    rw [moves.executions now, begins]
    change _ + _ + 0 = _
    omega
  | @finish thread outcome slot ended now =>
    have fewer := executions_finish now outcome task
    have one : Pool.ends [Ending.mk ended slot outcome] task = (ended == task).toNat :=
      countP_singleton_toNat (fun e : Ending α => e.task == task) _
    rw [endings_finish now, one]
    change _ + p.begins task + _ = _ + p.begins task
    omega
  | @sweeper thread epoch old new r now moves =>
    have executions : (r.setSweeper thread new).executions task = p.executions task :=
      moves.workersIn _
    rw [executions]
    cases moves <;> rfl
  | _ => rfl

/-- Whether the endings so far account for what has been begun and is not executed any more. -/
def Concluded (p : Pool α) (past : List (Ending α)) : Prop :=
  ∀ task, p.begins task = p.executions task + ends past task

theorem Concluded.move (h : Concluded p past) (moves : p.Move label q) :
    Concluded q (past ++ p.endings label q) := by
  intro task
  have before := h task
  have step := moves.ends task
  rw [ends_append]
  omega

theorem Concluded.run (built : build plan true = .ok start) (ran : start.run labels = some p) :
    Concluded p (start.gather endings labels) := by
  apply gather_induction (P := Concluded) built ran
  · intro task
    rfl
  · intro r s label past _ h moves
    exact h.move moves

theorem Concluded.spent (h : Concluded p past) {ending : Ending α} (member : ending ∈ past) :
    p.executions ending.task < p.begins ending.task := by
  have some := ends_pos_iff.mpr ⟨ending, member, rfl⟩
  have all := h ending.task
  omega

theorem Concluded.ends_le (h : Concluded p past) (accounted : Accounted p) (task : Nat) :
    ends past task ≤ 1 := by
  have once := accounted.begins_le task
  have all := h task
  omega

theorem Accounted.delivered_of_begun (h : Accounted p) (begun : 0 < p.begins task) :
    p.delivered task = 1 := by
  have account := h.begun task
  have once : p.delivered task ≤ 1 := markAt_le ..
  omega

theorem Finished.spent (h : Finished p task) : p.executions task < p.begins task := by
  rw [h.begins, h.executions]
  exact Nat.one_pos

theorem Move.spent (moves : p.Move label q) (spent : p.executions task < p.begins task) :
    q.executions task < q.begins task := by
  have step := moves.ends task
  omega

theorem Finished.move (h : Finished p task) (accounted : Accounted p) (tokens : Tokens p)
    (moves : p.Move label q) : Finished q task :=
  (accounted.move tokens moves).finished (moves.spent h.spent)

end Pool
end WorkerPool
