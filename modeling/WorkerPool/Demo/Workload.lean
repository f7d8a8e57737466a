import WorkerPool.Script.Stage
import WorkerPool.Settings.Environment

/-!
A workload that shows a pool at work: tasks that each take the same time, submitted one after the
other by a thread that then waits until all of them are over.
-/

namespace WorkerPool.Demo

open Script (Stage drive)

structure Workload where
  tasks : Nat := 100
  /-- How long a task takes. -/
  length : Duration := .ofMillis 10
  deriving DecidableEq, Repr

def interval : Duration := .ofMillis 5

/-- Reads the workload that the environment asks for. A number of tasks that cannot be read is
passed over; a length that cannot be read is an error. -/
def Workload.ofEnvironment (env : Environment) : Except Duration.Error Workload := do
  let usual : Workload := {}
  let tasks := match (env "DEMO_TASKS").map fun text => Decimal.readCount text.toList with
    | some (.ok n) => n
    | _ => usual.tasks
  let length ← match env "DEMO_TASK_TIME" with
    | some text => Duration.parse text
    | none => pure none
  return { tasks, length := length.getD usual.length }

namespace Workload

/-- A bound on the alarms that ring while a row of tasks is under way. -/
def rounds (w : Workload) (s : Stage Unit) : Nat :=
  (w.tasks + 1) * (w.length.nanos / s.pool.plan.expiry.nanos + 4) + 8

def submitOne (w : Workload) (s : Stage Unit) : Stage Unit :=
  let call := s.nextCall
  let s := { s.enlist .submit [.sleep w.length] with front := some call }
  let next? (s : Stage Unit) : Option (Stage Unit) :=
    if (s.pool.answer? call).isSome then none else s.advance? <|> s.nextAlarm? none
  drive next? (s.budget + w.rounds s) s

def submitAll (w : Workload) (s : Stage Unit) : Stage Unit :=
  (List.range w.tasks).foldl (fun s _ => w.submitOne s) s

def allOver (s : Stage Unit) : Bool :=
  s.pool.calls.all fun call => call.cell != .pending

def awaitAll (w : Workload) (s : Stage Unit) : Stage Unit :=
  let began := s.pool.clock
  let next? (s : Stage Unit) : Option (Stage Unit) :=
    if allOver s then none else s.nextAlarm? none
  let s := drive next? (w.rounds s) s.settle
  let looks := (s.pool.clock - began + interval.nanos - 1) / interval.nanos
  s.pause ⟨began + looks * interval.nanos - s.pool.clock⟩

def run (w : Workload) (s : Stage Unit) : Stage Unit := w.awaitAll (w.submitAll s)

end Workload
end WorkerPool.Demo
