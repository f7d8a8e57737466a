import WorkerPool.Script.Stage

/-!
Scripts: cues given to a pool one after the other, each once everyone waits, and what is seen
of the pool after each.
-/

namespace WorkerPool.Script

inductive Cue (α : Type)
  | submit (task : Task α) (deny : Bool)
  | spawn (task : Task α) (handle : String) (deny : Bool)
  /-- Takes the result of a handle. -/
  | join (handle : String)
  /-- Takes the result of a handle, if there is one yet. -/
  | poll (handle : String)
  | discard (handle : String)
  | openGate (gate : String)
  | release
  | restart (deny : Bool)
  /-- Releases the pool and restarts it at once. -/
  | bounce (deny : Bool)
  | pause (length : Duration)
  /-- Gives the pool up. -/
  | drop
  | info
  | metrics

inductive Yield (α : Type)
  | nothing
  | answer (answer : Answer)
  /-- The call has not returned. -/
  | blocked
  | value (result : Except PoolError (Option α))
  | pending
  | info (snapshot : Stats) (expiry : Duration)
  | lines (lines : List String)

structure Report (α : Type) where
  result : Yield α
  /-- Tasks whose submission had been waiting and returned, with its answer. -/
  returned : List (Nat × Answer)
  /-- Tasks begun, with the names of their threads. -/
  ran : List (Nat × String)
  notes : List (Nat × Note)
  /-- Calls of the panic handler so far. -/
  handled : Nat
  /-- The snapshot, unless the pool has been given up. -/
  stats : Option Stats
  events : List Log.Event

structure Play (α : Type) where
  stage : Stage α
  /-- Calls by the names of their handles. -/
  handles : List (String × Nat) := []
  /-- Tasks whose submission waits. -/
  blocked : List Nat := []
  /-- Whether each cue ends only when no worker waits for a task. -/
  exhausting : Bool := false

namespace Play

variable {α : Type}

def settle (p : Play α) : Play α :=
  { p with stage := if p.exhausting then p.stage.exhaust else p.stage.settle }

/-- Makes a call that acts before all others; none of them acts before it returns or waits. -/
def perform (p : Play α) (invoke : Stage α → Stage α) (deny : Bool) : Play α :=
  let call := p.stage.nextCall
  let denied := if deny then call :: p.stage.denied else p.stage.denied
  let stage := { invoke p.stage with front := some call, denied }
  { p with stage := drive (·.stepCall? call) 16 stage }

def yieldOf (p : Play α) (call : Nat) : Yield α :=
  match p.stage.pool.answer? call with
  | some answer => .answer answer
  | none => .blocked

def result? (p : Play α) (handle : String) : Option (Except PoolError (Option α)) := do
  let call ← p.handles.lookup handle
  (← p.stage.pool.calls[call]?).cell.result?

def forget (p : Play α) (handle : String) : Play α :=
  { p with handles := p.handles.filter (·.1 != handle) }

def metricLines (p : Play α) : List String := p.stage.pool.registry.exportLines.1

/-- Carries out a cue up to the point where all wait, and tells what it yields. -/
def cue (p : Play α) : Cue α → Yield α × Play α
  | .submit task deny =>
    let call := p.stage.nextCall
    let p := (p.perform (·.enlist .submit task) deny).settle
    (p.yieldOf call, p)
  | .spawn task handle deny =>
    let call := p.stage.nextCall
    let p := (p.perform (·.enlist .spawn task) deny).settle
    match p.stage.pool.answer? call with
    | some (.failed e) => (.answer (.failed e), p)
    | _ => (p.yieldOf call, { p with handles := (handle, call) :: p.handles })
  | .join handle | .poll handle =>
    match p.result? handle with
    | some result => (.value result, (p.forget handle).settle)
    | none => (.pending, p.settle)
  | .discard handle => (.nothing, (p.forget handle).settle)
  | .openGate gate =>
    (.nothing, settle { p with stage := { p.stage with gates := gate :: p.stage.gates } })
  | .release => (.nothing, (p.perform (·.invoke .release) false).settle)
  | .restart deny =>
    let call := p.stage.nextCall
    let p := (p.perform (·.invoke .restart) deny).settle
    (p.yieldOf call, p)
  | .bounce deny =>
    let p := p.perform (·.invoke .release) false
    let call := p.stage.nextCall
    let p := (p.perform (·.invoke .restart) deny).settle
    (p.yieldOf call, p)
  | .pause length => (.nothing, settle { p with stage := p.stage.pause length })
  | .drop =>
    let p := p.perform (·.invoke .release) false
    (.nothing, settle { p with stage := { p.stage with dropped := true } })
  | .info => (.info p.stage.pool.stats p.stage.pool.plan.expiry, p.settle)
  | .metrics => (.lines p.metricLines, p.settle)

/-- What a list that grows at its front has gained, the earliest first. -/
def fresh {β : Type} (before after : List β) : List β :=
  (after.take (after.length - before.length)).reverse

def taskNumber (p : Play α) (call : Nat) : Nat := ((p.stage.job? call).map (·.1)).getD 0

def reportSince (before : Play α) (result : Yield α) (p : Play α) : Report α :=
  let pool := p.stage.pool
  { result
    returned := before.blocked.filterMap fun number => do
      let job ← p.stage.jobs[number]?
      return (number, ← pool.answer? job.call)
    ran := (fresh before.stage.pool.begun pool.begun).map fun (call, slot) =>
      (p.taskNumber call, pool.plan.threadName slot)
    notes := fresh before.stage.notes p.stage.notes
    handled := pool.handled
    stats := if p.stage.dropped then none else some pool.stats
    events := (fresh before.stage.pool.notices pool.notices).map (·.event pool.plan) }

/-- The tasks whose submission was asked for by a cue or waited before, and waits now. -/
def stillBlocked (before p : Play α) (cue : Cue α) : List Nat :=
  let asked := match cue with
    | .submit .. | .spawn .. => [before.stage.jobs.length]
    | _ => []
  (before.blocked ++ asked).filter fun number =>
    ((p.stage.jobs[number]?).bind fun job => p.stage.pool.answer? job.call).isNone

def next (p : Play α) (c : Cue α) : Report α × Play α :=
  let (result, after) := p.cue c
  (reportSince p result after, { after with blocked := p.stillBlocked after c })

def start (plan : Plan) (granted exhausting : Bool) : Except PoolError (Report α × Play α) := do
  let pool ← Pool.build plan granted
  let quiet : Pool (Option α) := { pool with notices := [] }
  let p : Play α := settle { stage := { pool }, exhausting }
  return (reportSince { p with stage := { p.stage with pool := quiet } } .nothing p, p)

end Play
end WorkerPool.Script
