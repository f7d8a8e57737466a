import WorkerPool.Pool.Step
import WorkerPool.Script.Task

/-!
Runs of a pool in which everyone acts in turn. One call can be in front: it acts before all
others, then come the other calls, the workers with their tasks, and the sweepers. Time stands
still unless it is told to pass. Calls that wait are woken in the order in which they began to.
-/

namespace WorkerPool.Script

/-- Repeats a step while it can be taken, at most `fuel` times. -/
def drive {σ : Type} (next? : σ → Option σ) : Nat → σ → σ
  | 0, s => s
  | fuel + 1, s =>
    match next? s with
    | some s => drive next? fuel s
    | none => s

structure Stage (α : Type) where
  pool : Pool (Option α)
  /-- The submitted tasks by their numbers. -/
  jobs : List (Job α) := []
  /-- Gates that are open. -/
  gates : List String := []
  /-- The call in front. -/
  front : Option Nat := none
  /-- Calls that the system refuses every thread. -/
  denied : List Nat := []
  /-- Waiting calls, the next to be woken first. -/
  queue : List Nat := []
  /-- What tasks have noted, with their numbers, the latest first. -/
  notes : List (Nat × Note) := []
  /-- Whether the pool has been given up for good. -/
  dropped : Bool := false

namespace Stage

variable {α : Type}

/-- The queue after a step: who waits no longer leaves, who waits now comes last. -/
def requeue (s : Stage α) : Stage α :=
  let waiting := s.pool.calls.zipIdx.filterMap fun (call, number) =>
    if call.phase.isWaiting then some number else none
  let still := s.queue.filter waiting.contains
  { s with queue := still ++ waiting.filter fun call => !still.contains call }

def step? (s : Stage α) (label : Label (Option α)) : Option (Stage α) :=
  (s.pool.step label).map fun pool => requeue { s with pool }

def stepCall? (s : Stage α) (call : Nat) : Option (Stage α) :=
  s.step? (.call call s.queue.head?) <|> s.step? (.thread call (!s.denied.contains call))

def invoke (s : Stage α) (op : Op) : Stage α :=
  { s with pool := (s.pool.step (.invoke op)).getD s.pool }

def nextCall (s : Stage α) : Nat := s.pool.calls.length

def enlist (s : Stage α) (op : Op) (task : Task α) : Stage α :=
  let job : Job α := { call := s.nextCall, rest := task }
  { s with jobs := s.jobs ++ [job] }.invoke op

def setJob (s : Stage α) (number : Nat) (job : Job α) : Stage α :=
  { s with jobs := s.jobs.set number job }

def noteOf (op : Op) (answer : Answer) : Note :=
  match op with
  | .release => .released
  | _ => .answered answer

/-- The next action of a task on a worker; none while the task waits. -/
def act? (s : Stage α) (thread number : Nat) (job : Job α) : Option (Stage α) :=
  match job.awaited with
  | some call => do
    let made ← s.pool.calls[call]?
    let note := noteOf made.op (← made.phase.answer?)
    some ({ s with notes := (number, note) :: s.notes }.setJob number { job with awaited := none })
  | none =>
    match job.rest with
    | [] => s.step? (.finish thread (.returned job.value))
    | .panic payload :: _ => s.step? (.finish thread (.panicked payload))
    | .await gate :: rest =>
      if s.gates.contains gate then some (s.setJob number { job with rest }) else none
    | .sleep length :: rest =>
      match job.alarm with
      | none => some (s.setJob number { job with alarm := some (s.pool.clock + length.nanos) })
      | some moment =>
        if moment ≤ s.pool.clock then some (s.setJob number { job with rest, alarm := none })
        else none
    | .give value :: rest => some (s.setJob number { job with rest, value := some value })
    | .submit task :: rest =>
      let job := { job with rest }
      some <|
        if s.dropped then s.setJob number job
        else (s.setJob number { job with awaited := some s.nextCall }).enlist .submit task
    | .release :: rest =>
      let job := { job with rest }
      some <|
        if s.dropped then s.setJob number job
        else (s.setJob number { job with awaited := some s.nextCall }).invoke .release
    | .restart :: rest =>
      let job := { job with rest }
      some <|
        if s.dropped then s.setJob number job
        else (s.setJob number { job with awaited := some s.nextCall }).invoke .restart

def job? (s : Stage α) (call : Nat) : Option (Nat × Job α) :=
  (s.jobs.zipIdx.find? fun (job, _) => job.call == call).map fun (job, number) => (number, job)

def stepWorker? (s : Stage α) (thread : Nat) : Option (Stage α) :=
  s.step? (.worker thread s.queue.head?) <|> do
    match (← s.pool.workers[thread]?).phase with
    | .executing call =>
      let (number, job) ← s.job? call
      s.act? thread number job
    | _ => none

def stepSweeper? (s : Stage α) (thread : Nat) : Option (Stage α) :=
  s.step? (.sweeper thread) <|> do
    match (← s.pool.sweepers[thread]?).phase with
    | .asleep _ deadline =>
      if deadline ≤ s.pool.clock then s.step? (.stirSweeper thread) else none
    | _ => none

def stepCalls? (s : Stage α) : Option (Stage α) :=
  s.pool.calls.zipIdx.findSome? fun (call, number) =>
    if call.phase.answer?.isSome then none else s.stepCall? number

def advance? (s : Stage α) : Option (Stage α) :=
  s.front.bind s.stepCall? <|> s.stepCalls? <|>
    (List.range s.pool.workers.length).findSome? s.stepWorker? <|>
    (List.range s.pool.sweepers.length).findSome? s.stepSweeper?

/-- A bound on the steps that can be taken before everyone waits: each call, thread and action
takes a few of its own, and each call can be woken by each of the others. -/
def budget (s : Stage α) : Nat :=
  let actions := s.jobs.foldl (fun n job => n + sizes job.rest) 0
  let size := s.pool.calls.length + s.pool.workers.length + s.pool.sweepers.length + actions + 1
  32 * size * size

/-- Lets everyone act until all wait. -/
def settle (s : Stage α) : Stage α := drive advance? s.budget s

def alarm? (s : Stage α) : Option Nat :=
  let sweepers := s.pool.sweepers.filterMap fun sweeper => match sweeper.phase with
    | .asleep _ deadline => some deadline
    | _ => none
  (sweepers ++ s.jobs.filterMap (·.alarm)).min?

/-- Lets time pass up to a moment, without anyone acting. -/
def elapse (s : Stage α) (moment : Nat) : Stage α :=
  (s.step? (.pass (moment - s.pool.clock))).getD s

/-- Goes to the next alarm and settles, if there is one no later than `limit`. -/
def nextAlarm? (limit : Option Nat) (s : Stage α) : Option (Stage α) :=
  (s.alarm?.filter fun moment => limit.all (moment ≤ ·)).map fun moment =>
    (s.elapse moment).settle

/-- Lets a length of time pass, with everyone acting in it. Alarms ring at most once per expiry
and sleeper. -/
def pause (s : Stage α) (length : Duration) : Stage α :=
  let moment := s.pool.clock + length.nanos
  let sleepers := s.jobs.length + s.pool.workers.length + s.pool.sweepers.length
  let rounds := length.nanos / s.pool.plan.expiry.nanos + 2
  let s := drive (nextAlarm? (some moment)) (rounds * (sleepers + 2)) s.settle
  (s.elapse moment).settle

def exhaust (s : Stage α) : Stage α :=
  let next? (s : Stage α) : Option (Stage α) :=
    if s.pool.idle.size = 0 then none else s.nextAlarm? none
  drive next? (2 * (s.jobs.length + s.pool.workers.length) + 8) s.settle

end Stage
end WorkerPool.Script
