import WorkerPool.Pool.Panic

/-!
The threads of a pool: workers, each on a slot, and the sweepers that dismiss workers which wait
too long, one for each time the pool is opened.
-/

namespace WorkerPool

inductive WorkerPhase
  | beginning
  /-- At the channel of its slot. -/
  | receiving
  | executing (task : Nat)
  /-- The task has panicked. -/
  | unwound (payload : Payload)
  /-- Done with a task and about to wait for the next. -/
  | parking
  /-- About to give its slot back. -/
  | retiring
  /-- Has given its slot back and still counts as running. -/
  | lowering
  | lowered
  /-- Has read the number of running workers and not yet written it down. -/
  | publishing (count : Nat)
  /-- Has yet to wake a call. -/
  | leaving
  | gone
  /-- Brought down by a panic that nothing caught: its slot is lost, and it counts as running. -/
  | fallen
  deriving DecidableEq, Repr

structure Worker where
  slot : Nat
  phase : WorkerPhase := .beginning
  deriving DecidableEq, Repr

inductive SweeperPhase
  | beginning
  /-- About to look at the pool; the next regular round is due at `tick`. -/
  | awake (tick : Nat)
  | asleep (tick deadline : Nat)
  | gone
  /-- Brought down by a moment that it could not compute. -/
  | fallen
  deriving DecidableEq, Repr

structure Sweeper where
  epoch : Nat
  phase : SweeperPhase := .beginning
  deriving DecidableEq, Repr

def SweeperPhase.rouse : SweeperPhase → SweeperPhase
  | .asleep tick _ => .awake tick
  | phase => phase

end WorkerPool
