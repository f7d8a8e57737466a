import WorkerPool.Pool.Error
import WorkerPool.Pool.Panic
import WorkerPool.Text.Visible

/-!
What a pool is to be built from, before anything is checked.
-/

namespace WorkerPool

/-- The name of a pool that is given none; it names threads, log lines and metrics. -/
def defaultName : String := "tidepool"

def defaultExpiry : Duration := .ofSeconds 1

structure Plan where
  capacity : Nat
  expiry : Duration := defaultExpiry
  name : String := defaultName
  handler : PanicHandler := .absent
  deriving DecidableEq, Repr

def Plan.text (plan : Plan) : String :=
  "PoolBuilder \x7b capacity: " ++ toString plan.capacity ++ ", expiry: " ++ plan.expiry.text ++
    ", name: " ++ Text.quote plan.name ++ ", panic_handler: " ++ toString plan.handler.isSet ++
    " \x7d"

/-- A pool needs at least one worker and a positive expiry; the capacity is checked first. -/
def Plan.check (plan : Plan) : Except PoolError Unit :=
  if plan.capacity = 0 then .error (.invalidCapacity plan.capacity)
  else if plan.expiry.nanos = 0 then .error (.invalidExpiry plan.expiry)
  else .ok ()

def Plan.threadName (plan : Plan) (slot : Nat) : String := plan.name ++ "-" ++ toString slot

def Plan.sweeperName (plan : Plan) : String := plan.name ++ "-sweeper"

end WorkerPool
