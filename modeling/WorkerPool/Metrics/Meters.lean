/-!
The gauges and counters of a pool. Both are 64-bit words and wrap around.
-/

namespace WorkerPool.Metrics

inductive Gauge
  | running
  | idle
  deriving DecidableEq, Repr

inductive Counter
  | spawned
  | evicted
  | submitted
  | panicked
  | rejected
  deriving DecidableEq, Repr

def Gauge.all : List Gauge := [.running, .idle]

def Counter.all : List Counter := [.spawned, .evicted, .submitted, .panicked, .rejected]

def Gauge.name : Gauge → String
  | .running => "tidepool_workers_running"
  | .idle => "tidepool_workers_idle"

def Gauge.help : Gauge → String
  | .running => "Workers whose execution loop is alive"
  | .idle => "Idle workers"

def Counter.name : Counter → String
  | .spawned => "tidepool_workers_spawned_total"
  | .evicted => "tidepool_workers_evicted_total"
  | .submitted => "tidepool_tasks_submitted_total"
  | .panicked => "tidepool_tasks_panicked_total"
  | .rejected => "tidepool_tasks_rejected_total"

def Counter.help : Counter → String
  | .spawned => "Worker threads started"
  | .evicted => "Idle workers evicted after expiry"
  | .submitted => "Tasks submitted"
  | .panicked => "Tasks that panicked"
  | .rejected => "Submissions rejected by a closed pool"

structure Meters where
  running : Int64 := 0
  idle : Int64 := 0
  spawned : UInt64 := 0
  evicted : UInt64 := 0
  submitted : UInt64 := 0
  panicked : UInt64 := 0
  rejected : UInt64 := 0
  deriving DecidableEq, Repr

namespace Meters

def gauge (m : Meters) : Gauge → Int64
  | .running => m.running
  | .idle => m.idle

def counter (m : Meters) : Counter → UInt64
  | .spawned => m.spawned
  | .evicted => m.evicted
  | .submitted => m.submitted
  | .panicked => m.panicked
  | .rejected => m.rejected

def set (m : Meters) (g : Gauge) (value : Int64) : Meters :=
  match g with
  | .running => { m with running := value }
  | .idle => { m with idle := value }

def put (m : Meters) (c : Counter) (value : UInt64) : Meters :=
  match c with
  | .spawned => { m with spawned := value }
  | .evicted => { m with evicted := value }
  | .submitted => { m with submitted := value }
  | .panicked => { m with panicked := value }
  | .rejected => { m with rejected := value }

def add (m : Meters) (g : Gauge) (n : Int64) : Meters := m.set g (m.gauge g + n)

def count (m : Meters) (c : Counter) (n : Nat := 1) : Meters :=
  m.put c (m.counter c + .ofNat n)

@[simp] theorem gauge_set (m : Meters) (g h : Gauge) (value : Int64) :
    (m.set g value).gauge h = if h = g then value else m.gauge h := by
  cases g <;> cases h <;> rfl

@[simp] theorem counter_set (m : Meters) (g : Gauge) (c : Counter) (value : Int64) :
    (m.set g value).counter c = m.counter c := by
  cases g <;> cases c <;> rfl

@[simp] theorem counter_put (m : Meters) (c d : Counter) (value : UInt64) :
    (m.put c value).counter d = if d = c then value else m.counter d := by
  cases c <;> cases d <;> rfl

@[simp] theorem gauge_put (m : Meters) (c : Counter) (g : Gauge) (value : UInt64) :
    (m.put c value).gauge g = m.gauge g := by
  cases c <;> cases g <;> rfl

end Meters
end WorkerPool.Metrics
