import WorkerPool.Pool.Error
import WorkerPool.Pool.Panic

/-!
Calls of a pool's operations. A call is made of steps, and others may act between two of them;
its phase says how far it has come and what it holds.
-/

namespace WorkerPool

inductive Op
  /-- Hands a task to a worker, waiting for one if need be. -/
  | submit
  /-- The same, with a handle on what the task returns. -/
  | spawn
  /-- Closes the pool and stops its waiting workers. -/
  | release
  /-- Opens a released pool again. -/
  | restart
  /-- Takes a snapshot. -/
  | stats
  deriving DecidableEq, Repr

structure Stats where
  name : String := ""
  capacity : Nat := 0
  running : Nat := 0
  idle : Nat := 0
  free : Nat := 0
  cached : Nat := 0
  allocated : Nat := 0
  closed : Bool := false
  submitted : UInt64 := 0
  panicked : UInt64 := 0
  evicted : UInt64 := 0
  deriving DecidableEq, Repr

inductive Answer
  | done
  | failed (error : PoolError)
  | stats (snapshot : Stats)
  deriving DecidableEq, Repr

inductive Phase
  /-- About to look for a worker, after waiting since a moment or not having waited. -/
  | acquiring (since? : Option Nat)
  /-- Waiting to be woken. -/
  | waiting (since : Nat)
  /-- Found the pool closed. -/
  | turnedAway
  /-- Has a worker reserved that has no slot yet. -/
  | reserved
  /-- Has asked for a thread on the slot. -/
  | starting (slot : Nat)
  | started (slot : Nat)
  /-- Has read the number of running workers and not yet written it down. -/
  | publishing (slot count : Nat)
  /-- Has a worker to itself. -/
  | holding (worker : Nat)
  | handedOver
  /-- Was refused a thread; the reservation still counts. -/
  | refused
  /-- Has given the reservation back and not yet woken another call. -/
  | passingOn
  | closing
  /-- Has closed the pool and stopped some workers. -/
  | wakingSubmitters (stopped : Nat)
  | wakingSweepers (stopped : Nat)
  | reopening
  /-- Has opened the pool and asked for a sweeper. -/
  | reopened (epoch : Nat)
  | countingIdle
  | countingSlots (idle : Nat) (closed : Bool)
  | countingRunning (idle : Nat) (closed : Bool) (cached allocated : Nat)
  | returned (answer : Answer)
  deriving DecidableEq, Repr

def Op.firstPhase : Op → Phase
  | .submit | .spawn => .acquiring none
  | .release => .closing
  | .restart => .reopening
  | .stats => .countingIdle

def Phase.isWaiting : Phase → Bool
  | .waiting _ => true
  | _ => false

def Phase.rouse : Phase → Phase
  | .waiting since => .acquiring (some since)
  | phase => phase

def Phase.answer? : Phase → Option Answer
  | .returned answer => some answer
  | _ => none

inductive Outcome (α : Type)
  | returned (value : α)
  | panicked (payload : Payload)
  deriving DecidableEq, Repr

inductive Cell (α : Type)
  | pending
  | value (v : α)
  /-- The task is gone and has left no value. -/
  | failed
  deriving DecidableEq, Repr

def Outcome.cell {α : Type} : Outcome α → Cell α
  | .returned v => .value v
  | .panicked _ => .failed

/-- What a handle yields, once the task is over. -/
def Cell.result? {α : Type} : Cell α → Option (Except PoolError α)
  | .pending => none
  | .value v => some (.ok v)
  | .failed => some (.error .taskFailed)

structure Call (α : Type) where
  op : Op
  phase : Phase
  cell : Cell α := .pending
  deriving DecidableEq, Repr

end WorkerPool
