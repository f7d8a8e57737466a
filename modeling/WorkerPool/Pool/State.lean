import WorkerPool.Metrics.Registry
import WorkerPool.Pool.Call
import WorkerPool.Pool.Notice
import WorkerPool.Pool.Roster
import WorkerPool.Pool.Slots
import WorkerPool.Pool.Thread

/-!
The state of a pool between two steps, with everyone who takes part in it: the calls made, the
worker threads and the sweepers; and what a pool shows of itself, its metrics and its snapshot.
-/

namespace WorkerPool

def refusalReason : String := "Resource temporarily unavailable (os error 11)"

/-- A pool whose tasks return values of type `α`. Tasks go by the number of their call. -/
structure Pool (α : Type) where
  plan : Plan
  /-- The present moment. -/
  clock : Nat := 0
  /-- Workers reserved or alive; a word of 64 bits. -/
  running : Nat := 0
  closed : Bool := false
  /-- How often the pool has been opened again. -/
  epoch : Nat := 0
  idle : Roster := {}
  slots : Slots (Message Nat) := {}
  calls : List (Call α) := []
  workers : List Worker := []
  sweepers : List Sweeper := []
  meters : Metrics.Meters := {}
  /-- Calls of the panic handler. -/
  handled : Nat := 0
  /-- How long calls have waited for a worker, the latest first. -/
  waits : List Nat := []
  /-- Tasks begun and the slots of their workers, the latest first. -/
  begun : List (Nat × Nat) := []
  /-- What the log has been told, the latest first. -/
  notices : List Notice := []
  deriving DecidableEq, Repr

namespace Pool

variable {α : Type}

/-- A new pool, if its plan holds and the system grants the sweeper a thread. -/
def build (plan : Plan) (granted : Bool) : Except PoolError (Pool α) := do
  plan.check
  if granted then
    pure { plan, sweepers := [{ epoch := 0 }], notices := [.created] }
  else throw (.spawn refusalReason)

/-- Capacity left before a submission has to wait. -/
def free (p : Pool α) : Nat := p.plan.capacity - p.running

def stats (p : Pool α) : Stats :=
  { name := p.plan.name, capacity := p.plan.capacity, running := p.running
    idle := p.idle.size, free := p.free, cached := p.slots.cached
    allocated := p.slots.allocated, closed := p.closed, submitted := p.meters.submitted
    panicked := p.meters.panicked, evicted := p.meters.evicted }

def registry (p : Pool α) : Metrics.Registry :=
  let seconds (nanos : Nat) : Float := nanos.toFloat / 1e9
  { pool := p.plan.name, meters := p.meters
    waits := (p.waits.reverse.map seconds).foldl Metrics.Histogram.observe
      (.ofBounds Metrics.waitBounds) }

def phase? (p : Pool α) (call : Nat) : Option Phase := p.calls[call]?.map (·.phase)

def answer? (p : Pool α) (call : Nat) : Option Answer := (p.phase? call).bind (·.answer?)

def note (p : Pool α) (n : Notice) : Pool α := { p with notices := n :: p.notices }

/-- The call moves on to a phase. -/
def setPhase (p : Pool α) (call : Nat) (phase : Phase) : Pool α :=
  { p with calls := p.calls.modify call fun c => { c with phase } }

/-- The task of a call ends and leaves what it leaves. -/
def setCell (p : Pool α) (call : Nat) (cell : Cell α) : Pool α :=
  { p with calls := p.calls.modify call fun c => { c with cell } }

def setWorker (p : Pool α) (thread : Nat) (phase : WorkerPhase) : Pool α :=
  { p with workers := p.workers.modify thread fun w => { w with phase } }

def setSweeper (p : Pool α) (thread : Nat) (phase : SweeperPhase) : Pool α :=
  { p with sweepers := p.sweepers.modify thread fun s => { s with phase } }

/-- The number of running workers after one more has gone; a word wraps below zero. -/
def lowered (running : Nat) : Nat := if running = 0 then Decimal.countMax else running - 1

end Pool

def Stats.toJson (s : Stats) : Log.Json :=
  .object [("name", .text s.name), ("capacity", .nat s.capacity), ("running", .nat s.running),
    ("idle", .nat s.idle), ("free", .nat s.free), ("cached_slots", .nat s.cached),
    ("allocated_slots", .nat s.allocated), ("closed", .bool s.closed),
    ("tasks_submitted", .nat s.submitted.toNat), ("tasks_panicked", .nat s.panicked.toNat),
    ("workers_evicted", .nat s.evicted.toNat)]

end WorkerPool
