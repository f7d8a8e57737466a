import WorkerPool.Log.Event
import WorkerPool.Pool.Plan
import WorkerPool.Pool.Panic

/-!
What a pool tells the log.
-/

namespace WorkerPool

inductive Notice
  | created
  | workerStarted (worker : Nat)
  | workerStopped (worker : Nat)
  /-- A call begins to wait for a worker. -/
  | saturated
  | refusedThread (reason : String)
  | rejected
  /-- A worker was gone when a task was to be handed to it. -/
  | lost (worker : Nat)
  /-- A task panicked, and there is no handler. -/
  | panicked (worker : Nat) (payload : Payload)
  | handlerPanicked (worker : Nat)
  | released (stopped : Nat)
  | restarted
  | sweeperStarted (epoch : Nat)
  | sweeperStopped (epoch : Nat)
  | evicted (count idle : Nat)
  deriving DecidableEq, Repr

namespace Notice

def target : Notice → String
  | workerStarted _ | workerStopped _ => "tidepool::pool::worker"
  | sweeperStarted _ | sweeperStopped _ | evicted .. => "tidepool::pool::sweeper"
  | _ => "tidepool::pool::thread"

def level : Notice → Log.Level
  | created | released _ | restarted => .info
  | refusedThread _ | lost _ | panicked .. | handlerPanicked _ => .error
  | _ => .debug

def message : Notice → String
  | created => "worker pool created"
  | workerStarted _ => "worker started"
  | workerStopped _ => "worker stopped"
  | saturated => "pool saturated, waiting for a worker"
  | refusedThread _ => "failed to spawn worker thread"
  | rejected => "submit rejected: pool released"
  | lost _ => "worker exited before hand-off"
  | panicked .. => "task panicked"
  | handlerPanicked _ => "panic handler panicked"
  | released _ => "worker pool released"
  | restarted => "worker pool restarted"
  | sweeperStarted _ => "expiry sweeper started"
  | sweeperStopped _ => "expiry sweeper stopped"
  | evicted .. => "evicted expired idle workers"

def count (n : Nat) : Log.Value := .int n

/-- Milliseconds fill one word of 64 bits. -/
def details (plan : Plan) : Notice → List (String × Log.Value)
  | created =>
    [("capacity", count plan.capacity), ("expiry_ms", count (plan.expiry.millis % (Decimal.countMax + 1)))]
  | workerStarted worker | workerStopped worker | lost worker | handlerPanicked worker =>
    [("worker", count worker)]
  | saturated => [("capacity", count plan.capacity)]
  | refusedThread reason => [("error", .shown reason)]
  | panicked worker payload => [("worker", count worker), ("panic", .text payload.message)]
  | released stopped => [("stopped", count stopped)]
  | sweeperStarted epoch | sweeperStopped epoch => [("epoch", count epoch)]
  | evicted n idle => [("evicted", count n), ("idle", count idle)]
  | rejected | restarted => []

def event (plan : Plan) (n : Notice) : Log.Event :=
  { level := n.level, target := n.target
    fields := ("message", .text n.message) :: ("pool", .shown plan.name) :: n.details plan }

/-- The thread that speaks; `caller` is one that calls the pool. -/
def thread (plan : Plan) (caller : String) : Notice → String
  | workerStarted worker | workerStopped worker | panicked worker _ | handlerPanicked worker =>
    plan.threadName worker
  | sweeperStarted _ | sweeperStopped _ | evicted .. => plan.sweeperName
  | _ => caller

end Notice
end WorkerPool
