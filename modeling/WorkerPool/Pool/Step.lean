import WorkerPool.Pool.State

/-!
The steps of a pool. A step is what one participant does without another coming between: all it
does while it holds the lock of the pool or that of the slots, one reading or change of the number
of running workers, one message sent or received, one thread started or refused.
-/

namespace WorkerPool

/-- Who acts, with what is left to the world. Where a step wakes one waiting call, `wakes` says
which, and `none` that nobody waits. -/
inductive Label (α : Type)
  /-- Time goes by. -/
  | pass (nanos : Nat)
  /-- A new call. -/
  | invoke (op : Op)
  /-- The next step of a call. -/
  | call (call : Nat) (wakes : Option Nat)
  /-- The system decides whether a call gets the thread it has asked for. -/
  | thread (call : Nat) (granted : Bool)
  /-- A waiting call wakes by itself. -/
  | stir (call : Nat)
  /-- The next step of a worker. -/
  | worker (thread : Nat) (wakes : Option Nat)
  /-- The task of a worker ends. -/
  | finish (thread : Nat) (outcome : Outcome α)
  /-- The next step of a sweeper. -/
  | sweeper (thread : Nat)
  /-- A sweeper wakes, at its deadline or by itself. -/
  | stirSweeper (thread : Nat)
  deriving DecidableEq, Repr

namespace Pool

variable {α : Type}

def isWaiting (p : Pool α) (call : Nat) : Bool := (p.phase? call).any (·.isWaiting)

def someoneWaits (p : Pool α) : Bool := p.calls.any (·.phase.isWaiting)

def rouse (p : Pool α) (call : Nat) : Pool α :=
  { p with calls := p.calls.modify call fun c => { c with phase := c.phase.rouse } }

def wakeOne (p : Pool α) : Option Nat → Option (Pool α)
  | some call => if p.isWaiting call then some (p.rouse call) else none
  | none => if p.someoneWaits then none else some p

def wakeSubmitters (p : Pool α) : Pool α :=
  { p with calls := p.calls.map fun c => { c with phase := c.phase.rouse } }

def wakeSweepers (p : Pool α) : Pool α :=
  { p with sweepers := p.sweepers.map fun s => { s with phase := s.phase.rouse } }

/-- The roster changes, and the gauge of waiting workers with it. -/
def setIdle (p : Pool α) (idle : Roster) : Pool α :=
  { p with idle, meters := p.meters.set .idle (.ofNat idle.size) }

def recordWait (p : Pool α) : Option Nat → Pool α
  | some since => { p with waits := (p.clock - since) :: p.waits }
  | none => p

/-- The call ends without its task having been taken; the task is thrown away. -/
def giveUp (p : Pool α) (call : Nat) (e : PoolError) : Pool α :=
  (p.setCell call .failed).setPhase call (.returned (.failed e))

/-- Tells workers to stop, one after the other, unless the channel of one has no room. -/
def stopAll (slots : Slots (Message Nat)) : List Nat → Option (Slots (Message Nat))
  | [] => some slots
  | worker :: rest =>
    match slots.send worker .stop with
    | (.full, _) => none
    | (_, slots) => stopAll slots rest

/-- The task in a message that is thrown away leaves no value. -/
def discard (p : Pool α) : Message Nat → Pool α
  | .run task => p.setCell task .failed
  | .stop => p

/-- A slot is given back; messages left in its channel are thrown away. -/
def putSlot (p : Pool α) (slot : Nat) : Pool α :=
  let dropped := (p.slots.channel slot).queue
  dropped.foldl discard { p with slots := p.slots.put slot }

/-- What follows on a panic: it is counted, and the handler is called or the log is told. -/
def panicAftermath (p : Pool α) (worker : Nat) (payload : Payload) : Pool α :=
  let p := { p with meters := p.meters.count .panicked }
  match p.plan.handler with
  | .absent => p.note (.panicked worker payload)
  | .returns => { p with handled := p.handled + 1 }
  | .panics => { p with handled := p.handled + 1 }.note (.handlerPanicked worker)
  | .volatile => { p with handled := p.handled + 1 }

/-- A look for a worker: a waiting one, or room for a new one, or else the call has to wait. -/
def acquire (p : Pool α) (call : Nat) (since? : Option Nat) : Pool α :=
  if p.closed then p.setPhase call .turnedAway
  else match p.idle.pop? with
  | some (worker, idle) =>
    ((p.setIdle idle).recordWait since?).setPhase call (.holding worker)
  | none =>
    if p.running < p.plan.capacity then
      ({ p with running := p.running + 1 }.recordWait since?).setPhase call .reserved
    else match since? with
    | some since => p.setPhase call (.waiting since)
    | none => (p.note .saturated).setPhase call (.waiting p.clock)

def handOver (p : Pool α) (call worker : Nat) : Option (Pool α) :=
  match p.slots.send worker (.run call) with
  | (.sent, slots) => some ({ p with slots }.setPhase call .handedOver)
  | (.full, _) => none
  | (.refused, _) => some ((p.note (.lost worker)).giveUp call .closed)

def close (p : Pool α) (call : Nat) : Option (Pool α) :=
  if p.closed then some (p.setPhase call (.returned .done))
  else
    let (stopped, idle) := p.idle.drain
    (stopAll p.slots stopped).map fun slots =>
      ({ p with closed := true, slots }.setIdle idle).setPhase call
        (.wakingSubmitters stopped.length)

def reopen (p : Pool α) (call : Nat) : Pool α :=
  if p.closed then
    { p with closed := false, epoch := p.epoch + 1 }.setPhase call (.reopened (p.epoch + 1))
  else p.setPhase call (.returned (.failed .notReleased))

/-- The next step of a call in the given phase; none while it waits for another. -/
def callStep (p : Pool α) (call : Nat) (wakes : Option Nat) : Phase → Option (Pool α)
  | .acquiring since? => some (p.acquire call since?)
  | .waiting _ => none
  | .turnedAway =>
    some (({ p with meters := p.meters.count .rejected }.note .rejected).giveUp call .closed)
  | .reserved =>
    let (slot, slots) := p.slots.take
    some ({ p with slots }.setPhase call (.starting slot))
  | .starting _ => none
  | .started slot =>
    some ({ p with meters := p.meters.count .spawned }.setPhase call (.publishing slot p.running))
  | .publishing slot count =>
    some ({ p with meters := p.meters.set .running (.ofNat count) }.setPhase call (.holding slot))
  | .holding worker => p.handOver call worker
  | .handedOver =>
    some ({ p with meters := p.meters.count .submitted }.setPhase call (.returned .done))
  | .refused => some ({ p with running := lowered p.running }.setPhase call .passingOn)
  | .passingOn =>
    (p.wakeOne wakes).map fun p =>
      (p.note (.refusedThread refusalReason)).giveUp call (.spawn refusalReason)
  | .closing => p.close call
  | .wakingSubmitters stopped => some (p.wakeSubmitters.setPhase call (.wakingSweepers stopped))
  | .wakingSweepers stopped =>
    some ((p.wakeSweepers.note (.released stopped)).setPhase call (.returned .done))
  | .reopening => some (p.reopen call)
  | .reopened _ => none
  | .countingIdle => some (p.setPhase call (.countingSlots p.idle.size p.closed))
  | .countingSlots idle closed =>
    some (p.setPhase call (.countingRunning idle closed p.slots.cached p.slots.allocated))
  | .countingRunning idle closed cached allocated =>
    some (p.setPhase call (.returned (.stats { p.stats with idle, closed, cached, allocated })))
  | .returned _ => none

/-- A thread is granted or refused to the call that has asked for it. The slot of a worker that is
refused is lost, and its channel with it. -/
def threadStep (p : Pool α) (call : Nat) (granted : Bool) : Phase → Option (Pool α)
  | .starting slot =>
    some <|
      if granted then
        { p with workers := p.workers ++ [({ slot } : Worker)] }.setPhase call (.started slot)
      else { p with slots := p.slots.hangUp slot }.setPhase call .refused
  | .reopened epoch =>
    some <|
      if granted then
        ({ p with sweepers := p.sweepers ++ [({ epoch } : Sweeper)] }.note .restarted).setPhase call
          (.returned .done)
      else p.setPhase call (.returned (.failed (.spawn refusalReason)))
  | _ => none

/-- A worker that is done with a task waits for the next, unless the pool has been closed. -/
def park (p : Pool α) (thread slot : Nat) (wakes : Option Nat) : Option (Pool α) :=
  if p.closed then some (p.setWorker thread .retiring)
  else ((p.setIdle (p.idle.push slot p.clock)).wakeOne wakes).map (·.setWorker thread .receiving)

/-- The next step of a worker; none while it waits for a message or executes a task. -/
def workerStep (p : Pool α) (thread slot : Nat) (wakes : Option Nat) :
    WorkerPhase → Option (Pool α)
  | .beginning => some ((p.note (.workerStarted slot)).setWorker thread .receiving)
  | .receiving =>
    match p.slots.receive slot with
    | (none, _) => none
    | (some (.run task), slots) =>
      some ({ p with slots, begun := (task, slot) :: p.begun }.setWorker thread (.executing task))
    | (some .stop, slots) => some ({ p with slots }.setWorker thread .retiring)
  | .executing _ => none
  | .unwound payload =>
    let p := p.panicAftermath slot payload
    some <|
      if payload.isVolatile || p.plan.handler.isVolatile then
        { p with slots := p.slots.hangUp slot }.setWorker thread .fallen
      else p.setWorker thread .parking
  | .parking => p.park thread slot wakes
  | .retiring => some ((p.putSlot slot).setWorker thread .lowering)
  | .lowering => some ({ p with running := lowered p.running }.setWorker thread .lowered)
  | .lowered => some (p.setWorker thread (.publishing p.running))
  | .publishing count =>
    some ({ p with meters := p.meters.set .running (.ofNat count) }.setWorker thread .leaving)
  | .leaving =>
    (p.wakeOne wakes).map fun p => (p.note (.workerStopped slot)).setWorker thread .gone
  | .gone => none
  | .fallen => none

def finishStep (p : Pool α) (thread : Nat) (outcome : Outcome α) : WorkerPhase → Option (Pool α)
  | .executing task =>
    some <| (p.setCell task outcome.cell).setWorker thread <|
      match outcome with
      | .returned _ => .parking
      | .panicked payload => .unwound payload
  | _ => none

/-- One round of a sweeper. -/
def sweepStep (p : Pool α) (thread tick : Nat) : Option (Pool α) :=
  match p.idle.sweep p.plan.expiry.nanos p.clock tick with
  | .fall => some (p.setSweeper thread .fallen)
  | .sleep deadline => some (p.setSweeper thread (.asleep tick deadline))
  | .pass tick dismissed kept =>
    if dismissed.isEmpty then some (p.setSweeper thread (.awake tick))
    else (stopAll p.slots dismissed).map fun slots =>
      let p := ({ p with slots, meters := p.meters.count .evicted dismissed.length }).setIdle kept
      (p.note (.evicted dismissed.length kept.size)).setSweeper thread (.awake tick)

/-- The next step of a sweeper. It leaves when the pool is closed or has been opened again without
it. -/
def sweeperStep (p : Pool α) (thread epoch : Nat) : SweeperPhase → Option (Pool α)
  | .beginning =>
    some <| (p.note (.sweeperStarted epoch)).setSweeper thread <|
      match later? p.clock p.plan.expiry.nanos with
      | some tick => .awake tick
      | none => .fallen
  | .awake tick =>
    if p.closed ∨ p.epoch ≠ epoch then
      some ((p.note (.sweeperStopped epoch)).setSweeper thread .gone)
    else p.sweepStep thread tick
  | .asleep .. | .gone | .fallen => none

/-- The pool after a step, or nothing if no such step can be taken. -/
def step (p : Pool α) : Label α → Option (Pool α)
  | .pass nanos => some { p with clock := p.clock + nanos }
  | .invoke op => some { p with calls := p.calls ++ [{ op, phase := op.firstPhase }] }
  | .call call wakes => (p.phase? call).bind (p.callStep call wakes)
  | .thread call granted => (p.phase? call).bind (p.threadStep call granted)
  | .stir call => if p.isWaiting call then some (p.rouse call) else none
  | .worker thread wakes => p.workers[thread]?.bind fun w => p.workerStep thread w.slot wakes w.phase
  | .finish thread outcome => p.workers[thread]?.bind fun w => p.finishStep thread outcome w.phase
  | .sweeper thread => p.sweepers[thread]?.bind fun s => p.sweeperStep thread s.epoch s.phase
  | .stirSweeper thread =>
    p.sweepers[thread]?.bind fun s =>
      match s.phase with
      | .asleep tick _ => some (p.setSweeper thread (.awake tick))
      | _ => none

/-- The pool after a row of steps. -/
def run (p : Pool α) : List (Label α) → Option (Pool α)
  | [] => some p
  | label :: rest => (p.step label).bind (·.run rest)

/-- Whether the pool comes about from a plan by steps. -/
def Reachable (plan : Plan) (p : Pool α) : Prop :=
  ∃ start labels, build plan true = .ok start ∧ run start labels = some p

end Pool
end WorkerPool
