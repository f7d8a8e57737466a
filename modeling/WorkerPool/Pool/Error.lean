import WorkerPool.Duration

/-!
The ways in which an operation of a pool fails, and what is said of each.
-/

namespace WorkerPool

inductive PoolError
  | invalidCapacity (capacity : Nat)
  | invalidExpiry (expiry : Duration)
  /-- The pool has been released and not restarted. -/
  | closed
  /-- A restart of a pool that is still open. -/
  | notReleased
  /-- The system refused to start a thread, with its reason. -/
  | spawn (reason : String)
  /-- The task behind a handle ended without a value. -/
  | taskFailed
  | metrics (reason : String)
  deriving DecidableEq, Repr

namespace PoolError

def message : PoolError → String
  | invalidCapacity n => s!"invalid capacity {n}: must be greater than zero"
  | invalidExpiry d => "invalid expiry " ++ d.text ++ ": must be greater than zero"
  | closed => "pool has been released"
  | notReleased => "pool cannot be restarted: it has not been released"
  | spawn reason => "failed to spawn worker thread: " ++ reason
  | taskFailed => "task panicked before producing a result"
  | metrics reason => "failed to register pool metrics: " ++ reason

def title : PoolError → String
  | invalidCapacity _ => "Invalid capacity"
  | invalidExpiry _ => "Invalid expiry"
  | closed => "Pool closed"
  | notReleased => "Pool not released"
  | spawn _ => "Worker spawn failed"
  | taskFailed => "Task failed"
  | metrics _ => "Metrics unavailable"

def isClosed : PoolError → Bool
  | closed => true
  | _ => false

def isSetting : PoolError → Bool
  | invalidCapacity _ | invalidExpiry _ => true
  | _ => false

end PoolError
end WorkerPool
