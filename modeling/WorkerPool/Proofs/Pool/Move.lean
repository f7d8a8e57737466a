import WorkerPool.Pool.Step

/-!
# Steps as moves

A step moves one participant from one phase to the next and changes some of what is shared. Each
kind of move has a name here, with what allows it. `Move.of_step` says that there are no
other steps, so later proofs go through the moves and never open the step functions.
-/

namespace WorkerPool

def Outcome.aftermath {α : Type} : Outcome α → WorkerPhase
  | .returned _ => .parking
  | .panicked payload => .unwound payload

namespace Pool

variable {α : Type}

/-- The waits recorded after one that began at a moment, if there was one. -/
def waited (p : Pool α) (since? : Option Nat) : List Nat :=
  (since?.map (p.clock - ·)).toList ++ p.waits

/-- Moves of a call between two phases. The last argument is the pool after the move, but for the
new phase of the call. -/
inductive CallMove (p : Pool α) (call : Nat) (wakes : Option Nat) : Phase → Phase → Pool α → Prop
  | turnAway {since?} (closed : p.closed = true) :
      CallMove p call wakes (.acquiring since?) .turnedAway p
  | reuse {since? worker idle} (opened : p.closed = false)
      (found : p.idle.pop? = some (worker, idle)) :
      CallMove p call wakes (.acquiring since?) (.holding worker)
        { p.setIdle idle with waits := p.waited since? }
  | reserve {since?} (opened : p.closed = false) (nobody : p.idle.pop? = none)
      (room : p.running < p.plan.capacity) :
      CallMove p call wakes (.acquiring since?) .reserved
        { p with running := p.running + 1, waits := p.waited since? }
  | wait {since} (opened : p.closed = false) (nobody : p.idle.pop? = none)
      (full : p.plan.capacity ≤ p.running) :
      CallMove p call wakes (.acquiring (some since)) (.waiting since) p
  | saturate (opened : p.closed = false) (nobody : p.idle.pop? = none)
      (full : p.plan.capacity ≤ p.running) :
      CallMove p call wakes (.acquiring none) (.waiting p.clock) (p.note .saturated)
  | reject :
      CallMove p call wakes .turnedAway (.returned (.failed .closed))
        (({ p with meters := p.meters.count .rejected }.note .rejected).setCell call .failed)
  | take :
      CallMove p call wakes .reserved (.starting p.slots.take.1) { p with slots := p.slots.take.2 }
  | count {slot} :
      CallMove p call wakes (.started slot) (.publishing slot p.running)
        { p with meters := p.meters.count .spawned }
  | publish {slot count} :
      CallMove p call wakes (.publishing slot count) (.holding slot)
        { p with meters := p.meters.set .running (.ofNat count) }
  | hand {worker slots} (sent : p.slots.send worker (.run call) = (.sent, slots)) :
      CallMove p call wakes (.holding worker) .handedOver { p with slots }
  | lose {worker slots} (gone : p.slots.send worker (.run call) = (.refused, slots)) :
      CallMove p call wakes (.holding worker) (.returned (.failed .closed))
        ((p.note (.lost worker)).setCell call .failed)
  | accept :
      CallMove p call wakes .handedOver (.returned .done)
        { p with meters := p.meters.count .submitted }
  | giveBack :
      CallMove p call wakes .refused .passingOn { p with running := lowered p.running }
  | passOn {calls} (woke : p.wakeOne wakes = some { p with calls }) :
      CallMove p call wakes .passingOn (.returned (.failed (.spawn refusalReason)))
        (({ p with calls }.note (.refusedThread refusalReason)).setCell call .failed)
  | closeAgain (closed : p.closed = true) :
      CallMove p call wakes .closing (.returned .done) p
  | close {slots} (opened : p.closed = false)
      (stopped : stopAll p.slots p.idle.workers = some slots) :
      CallMove p call wakes .closing (.wakingSubmitters p.idle.workers.length)
        ({ p with closed := true, slots }.setIdle {})
  | wakeSubmitters {stopped} :
      CallMove p call wakes (.wakingSubmitters stopped) (.wakingSweepers stopped) p.wakeSubmitters
  | wakeSweepers {stopped} :
      CallMove p call wakes (.wakingSweepers stopped) (.returned .done)
        (p.wakeSweepers.note (.released stopped))
  | reopen (closed : p.closed = true) :
      CallMove p call wakes .reopening (.reopened (p.epoch + 1))
        { p with closed := false, epoch := p.epoch + 1 }
  | reopenAgain (opened : p.closed = false) :
      CallMove p call wakes .reopening (.returned (.failed .notReleased)) p
  | countIdle :
      CallMove p call wakes .countingIdle (.countingSlots p.idle.size p.closed) p
  | countSlots {idle closed} :
      CallMove p call wakes (.countingSlots idle closed)
        (.countingRunning idle closed p.slots.cached p.slots.allocated) p
  | countRunning {idle closed cached allocated} :
      CallMove p call wakes (.countingRunning idle closed cached allocated)
        (.returned (.stats { p.stats with idle, closed, cached, allocated })) p

inductive ThreadMove (p : Pool α) : Bool → Phase → Phase → Pool α → Prop
  | hire {slot} :
      ThreadMove p true (.starting slot) (.started slot)
        { p with workers := p.workers ++ [({ slot } : Worker)] }
  | refuse {slot} :
      ThreadMove p false (.starting slot) .refused { p with slots := p.slots.hangUp slot }
  | attend {epoch} :
      ThreadMove p true (.reopened epoch) (.returned .done)
        ({ p with sweepers := p.sweepers ++ [({ epoch } : Sweeper)] }.note .restarted)
  | abandon {epoch} :
      ThreadMove p false (.reopened epoch) (.returned (.failed (.spawn refusalReason))) p

inductive WorkerMove (p : Pool α) (slot : Nat) (wakes : Option Nat) :
    WorkerPhase → WorkerPhase → Pool α → Prop
  | begin : WorkerMove p slot wakes .beginning .receiving (p.note (.workerStarted slot))
  | execute {task slots} (got : p.slots.receive slot = (some (.run task), slots)) :
      WorkerMove p slot wakes .receiving (.executing task)
        { p with slots, begun := (task, slot) :: p.begun }
  | stop {slots} (got : p.slots.receive slot = (some .stop, slots)) :
      WorkerMove p slot wakes .receiving .retiring { p with slots }
  | recover {payload handled notices}
      (gentle : (payload.isVolatile || p.plan.handler.isVolatile) = false)
      (after : p.panicAftermath slot payload =
        { p with meters := p.meters.count .panicked, handled, notices }) :
      WorkerMove p slot wakes (.unwound payload) .parking
        { p with meters := p.meters.count .panicked, handled, notices }
  | fall {payload handled notices}
      (volatile : (payload.isVolatile || p.plan.handler.isVolatile) = true)
      (after : p.panicAftermath slot payload =
        { p with meters := p.meters.count .panicked, handled, notices }) :
      WorkerMove p slot wakes (.unwound payload) .fallen
        { p with meters := p.meters.count .panicked, handled, notices, slots := p.slots.hangUp slot }
  | turnAway (closed : p.closed = true) : WorkerMove p slot wakes .parking .retiring p
  | park {calls} (opened : p.closed = false)
      (woke : (p.setIdle (p.idle.push slot p.clock)).wakeOne wakes =
        some { p.setIdle (p.idle.push slot p.clock) with calls }) :
      WorkerMove p slot wakes .parking .receiving
        { p.setIdle (p.idle.push slot p.clock) with calls }
  | giveSlot {calls} (drained : p.putSlot slot = { p with calls, slots := p.slots.put slot }) :
      WorkerMove p slot wakes .retiring .lowering { p with calls, slots := p.slots.put slot }
  | lower : WorkerMove p slot wakes .lowering .lowered { p with running := lowered p.running }
  | count : WorkerMove p slot wakes .lowered (.publishing p.running) p
  | publish {count} :
      WorkerMove p slot wakes (.publishing count) .leaving
        { p with meters := p.meters.set .running (.ofNat count) }
  | leave {calls} (woke : p.wakeOne wakes = some { p with calls }) :
      WorkerMove p slot wakes .leaving .gone ({ p with calls }.note (.workerStopped slot))

inductive SweeperMove (p : Pool α) (epoch : Nat) : SweeperPhase → SweeperPhase → Pool α → Prop
  | begin {tick} (ahead : later? p.clock p.plan.expiry.nanos = some tick) :
      SweeperMove p epoch .beginning (.awake tick) (p.note (.sweeperStarted epoch))
  | stumble (beyond : later? p.clock p.plan.expiry.nanos = none) :
      SweeperMove p epoch .beginning .fallen (p.note (.sweeperStarted epoch))
  | leave {tick} (leaves : p.closed = true ∨ p.epoch ≠ epoch) :
      SweeperMove p epoch (.awake tick) .gone (p.note (.sweeperStopped epoch))
  | sleep {tick deadline} (opened : p.closed = false) (current : p.epoch = epoch)
      (early : p.idle.sweep p.plan.expiry.nanos p.clock tick = .sleep deadline) :
      SweeperMove p epoch (.awake tick) (.asleep tick deadline) p
  | skip {tick next kept} (opened : p.closed = false) (current : p.epoch = epoch)
      (due : p.idle.sweep p.plan.expiry.nanos p.clock tick = .pass next [] kept) :
      SweeperMove p epoch (.awake tick) (.awake next) p
  | evict {tick next dismissed kept slots} (opened : p.closed = false) (current : p.epoch = epoch)
      (due : p.idle.sweep p.plan.expiry.nanos p.clock tick = .pass next dismissed kept)
      (late : dismissed ≠ []) (stopped : stopAll p.slots dismissed = some slots) :
      SweeperMove p epoch (.awake tick) (.awake next)
        ((({ p with slots, meters := p.meters.count .evicted dismissed.length }).setIdle kept).note
          (.evicted dismissed.length kept.size))
  | fall {tick} (opened : p.closed = false) (current : p.epoch = epoch)
      (beyond : p.idle.sweep p.plan.expiry.nanos p.clock tick = .fall) :
      SweeperMove p epoch (.awake tick) .fallen p

/-- All moves, each under the label of its step. -/
inductive Move (p : Pool α) : Label α → Pool α → Prop
  | pass {nanos} : Move p (.pass nanos) { p with clock := p.clock + nanos }
  | invoke {op} : Move p (.invoke op) { p with calls := p.calls ++ [{ op, phase := op.firstPhase }] }
  | call {call wakes old new q} (now : p.phase? call = some old)
      (moves : CallMove p call wakes old new q) : Move p (.call call wakes) (q.setPhase call new)
  | thread {call granted old new q} (now : p.phase? call = some old)
      (moves : ThreadMove p granted old new q) : Move p (.thread call granted) (q.setPhase call new)
  | stir {call since} (now : p.phase? call = some (.waiting since)) : Move p (.stir call) (p.rouse call)
  | worker {thread wakes slot old new q} (now : p.workers[thread]? = some ⟨slot, old⟩)
      (moves : WorkerMove p slot wakes old new q) :
      Move p (.worker thread wakes) (q.setWorker thread new)
  | finish {thread outcome slot task} (now : p.workers[thread]? = some ⟨slot, .executing task⟩) :
      Move p (.finish thread outcome)
        ((p.setCell task outcome.cell).setWorker thread outcome.aftermath)
  | sweeper {thread epoch old new q} (now : p.sweepers[thread]? = some ⟨epoch, old⟩)
      (moves : SweeperMove p epoch old new q) : Move p (.sweeper thread) (q.setSweeper thread new)
  | stirSweeper {thread epoch tick deadline}
      (now : p.sweepers[thread]? = some ⟨epoch, .asleep tick deadline⟩) :
      Move p (.stirSweeper thread) (p.setSweeper thread (.awake tick))

variable {p q : Pool α} {call thread slot : Nat} {wakes : Option Nat}

theorem isWaiting_iff : p.isWaiting call = true ↔ ∃ since, p.phase? call = some (.waiting since) := by
  unfold isWaiting
  cases p.phase? call with
  | none => simp
  | some phase => cases phase <;> simp [Phase.isWaiting]

theorem recordWait_eq (p : Pool α) (since? : Option Nat) :
    p.recordWait since? = { p with waits := p.waited since? } := by
  cases since? <;> rfl

theorem wakeOne_cases (woke : p.wakeOne wakes = some q) :
    (p.someoneWaits = false ∧ q = p) ∨ ∃ other, p.isWaiting other = true ∧ q = p.rouse other := by
  cases wakes with
  | none =>
    simp only [wakeOne] at woke
    split at woke
    · cases woke
    · rename_i nobody
      exact .inl ⟨by simpa using nobody, (Option.some.inj woke).symm⟩
  | some other =>
    simp only [wakeOne] at woke
    split at woke
    · rename_i waits
      exact .inr ⟨other, waits, (Option.some.inj woke).symm⟩
    · cases woke

theorem wakeOne_eq (woke : p.wakeOne wakes = some q) : ∃ calls, q = { p with calls } := by
  rcases wakeOne_cases woke with ⟨-, rfl⟩ | ⟨other, -, rfl⟩ <;> exact ⟨_, rfl⟩

theorem panicAftermath_eq (p : Pool α) (worker : Nat) (payload : Payload) :
    ∃ handled notices, p.panicAftermath worker payload =
      { p with meters := p.meters.count .panicked, handled, notices } := by
  simp only [panicAftermath]
  split <;> exact ⟨_, _, rfl⟩

/-- Messages that are thrown away concern calls alone. -/
theorem putSlot_eq (p : Pool α) (slot : Nat) :
    ∃ calls, p.putSlot slot = { p with calls, slots := p.slots.put slot } := by
  suffices ∀ (queue : List (Message Nat)) (r : Pool α),
      ∃ calls, queue.foldl discard r = { r with calls } from
    this _ { p with slots := p.slots.put slot }
  intro queue
  induction queue with
  | nil => exact fun r => ⟨r.calls, rfl⟩
  | cons message queue ih =>
    intro r
    obtain ⟨calls, eq⟩ := ih (r.discard message)
    refine ⟨calls, ?_⟩
    rw [List.foldl_cons, eq]
    cases message <;> rfl

theorem acquire_move (p : Pool α) (call : Nat) (wakes since? : Option Nat) :
    ∃ new q, CallMove p call wakes (.acquiring since?) new q ∧ p.acquire call since? = q.setPhase call new := by
  unfold acquire
  by_cases closed : p.closed = true
  · exact ⟨_, _, .turnAway closed, by simp [closed]⟩
  · have opened : p.closed = false := by simpa using closed
    cases found : p.idle.pop? with
    | some entry =>
      refine ⟨_, _, .reuse opened found, ?_⟩
      simp only [opened, recordWait_eq]
      rfl
    | none =>
      by_cases room : p.running < p.plan.capacity
      · exact ⟨_, _, .reserve opened found room, by simp [opened, room, recordWait_eq, waited]⟩
      · have full : p.plan.capacity ≤ p.running := by omega
        cases since? with
        | none => exact ⟨_, _, .saturate opened found full, by simp [opened, room]⟩
        | some since => exact ⟨_, _, .wait opened found full, by simp [opened, room]⟩

theorem handOver_move {worker : Nat} (h : p.handOver call worker = some q) :
    ∃ new r, CallMove p call wakes (.holding worker) new r ∧ q = r.setPhase call new := by
  unfold handOver at h
  split at h
  · rename_i slots sent
    exact ⟨_, _, .hand sent, (Option.some.inj h).symm⟩
  · cases h
  · rename_i slots gone
    exact ⟨_, _, .lose gone, (Option.some.inj h).symm⟩

theorem close_move (h : p.close call = some q) :
    ∃ new r, CallMove p call wakes .closing new r ∧ q = r.setPhase call new := by
  unfold close at h
  split at h
  · rename_i closed
    exact ⟨_, _, .closeAgain closed, (Option.some.inj h).symm⟩
  · rename_i opened
    obtain ⟨slots, stopped, rfl⟩ := Option.map_eq_some_iff.mp h
    exact ⟨_, _, .close (by simpa using opened) stopped, rfl⟩

theorem reopen_move (p : Pool α) (call : Nat) (wakes : Option Nat) :
    ∃ new q, CallMove p call wakes .reopening new q ∧ p.reopen call = q.setPhase call new := by
  unfold reopen
  split
  · rename_i closed
    exact ⟨_, _, .reopen closed, rfl⟩
  · rename_i opened
    exact ⟨_, _, .reopenAgain (by simpa using opened), rfl⟩

theorem callStep_move {old : Phase} (h : p.callStep call wakes old = some q) :
    ∃ new r, CallMove p call wakes old new r ∧ q = r.setPhase call new := by
  cases old with
  | acquiring since? =>
    obtain ⟨new, r, moves, eq⟩ := acquire_move p call wakes since?
    exact ⟨new, r, moves, (Option.some.inj h).symm.trans eq⟩
  | waiting | starting | reopened | returned => cases h
  | turnedAway => exact ⟨_, _, .reject, (Option.some.inj h).symm⟩
  | reserved => exact ⟨_, _, .take, (Option.some.inj h).symm⟩
  | started => exact ⟨_, _, .count, (Option.some.inj h).symm⟩
  | publishing => exact ⟨_, _, .publish, (Option.some.inj h).symm⟩
  | holding worker => exact handOver_move h
  | handedOver => exact ⟨_, _, .accept, (Option.some.inj h).symm⟩
  | refused => exact ⟨_, _, .giveBack, (Option.some.inj h).symm⟩
  | passingOn =>
    obtain ⟨woken, woke, rfl⟩ := Option.map_eq_some_iff.mp h
    obtain ⟨calls, rfl⟩ := wakeOne_eq woke
    exact ⟨_, _, .passOn woke, rfl⟩
  | closing => exact close_move h
  | wakingSubmitters => exact ⟨_, _, .wakeSubmitters, (Option.some.inj h).symm⟩
  | wakingSweepers => exact ⟨_, _, .wakeSweepers, (Option.some.inj h).symm⟩
  | reopening =>
    obtain ⟨new, r, moves, eq⟩ := reopen_move p call wakes
    exact ⟨new, r, moves, (Option.some.inj h).symm.trans eq⟩
  | countingIdle => exact ⟨_, _, .countIdle, (Option.some.inj h).symm⟩
  | countingSlots => exact ⟨_, _, .countSlots, (Option.some.inj h).symm⟩
  | countingRunning => exact ⟨_, _, .countRunning, (Option.some.inj h).symm⟩

theorem threadStep_move {granted : Bool} {old : Phase} (h : p.threadStep call granted old = some q) :
    ∃ new r, ThreadMove p granted old new r ∧ q = r.setPhase call new := by
  cases old <;> cases granted <;> try cases h
  · exact ⟨_, _, .refuse, rfl⟩
  · exact ⟨_, _, .hire, rfl⟩
  · exact ⟨_, _, .abandon, rfl⟩
  · exact ⟨_, _, .attend, rfl⟩

theorem workerStep_move {old : WorkerPhase} (h : p.workerStep thread slot wakes old = some q) :
    ∃ new r, WorkerMove p slot wakes old new r ∧ q = r.setWorker thread new := by
  cases old with
  | beginning => exact ⟨_, _, .begin, (Option.some.inj h).symm⟩
  | receiving =>
    simp only [workerStep] at h
    split at h
    · cases h
    · rename_i task slots got
      exact ⟨_, _, .execute got, (Option.some.inj h).symm⟩
    · rename_i slots got
      exact ⟨_, _, .stop got, (Option.some.inj h).symm⟩
  | executing | gone | fallen => cases h
  | unwound payload =>
    obtain ⟨handled, notices, after⟩ := panicAftermath_eq p slot payload
    simp only [workerStep, after] at h
    split at h
    · rename_i volatile
      exact ⟨_, _, .fall volatile after, (Option.some.inj h).symm⟩
    · rename_i gentle
      exact ⟨_, _, .recover (by simpa using gentle) after, (Option.some.inj h).symm⟩
  | parking =>
    simp only [workerStep, park] at h
    split at h
    · rename_i closed
      exact ⟨_, _, .turnAway closed, (Option.some.inj h).symm⟩
    · rename_i opened
      obtain ⟨woken, woke, rfl⟩ := Option.map_eq_some_iff.mp h
      obtain ⟨calls, rfl⟩ := wakeOne_eq woke
      exact ⟨_, _, .park (by simpa using opened) woke, rfl⟩
  | retiring =>
    obtain ⟨calls, drained⟩ := putSlot_eq p slot
    exact ⟨_, _, .giveSlot drained, drained ▸ (Option.some.inj h).symm⟩
  | lowering => exact ⟨_, _, .lower, (Option.some.inj h).symm⟩
  | lowered => exact ⟨_, _, .count, (Option.some.inj h).symm⟩
  | publishing => exact ⟨_, _, .publish, (Option.some.inj h).symm⟩
  | leaving =>
    obtain ⟨woken, woke, rfl⟩ := Option.map_eq_some_iff.mp h
    obtain ⟨calls, rfl⟩ := wakeOne_eq woke
    exact ⟨_, _, .leave woke, rfl⟩

theorem sweeperStep_move {epoch : Nat} {old : SweeperPhase}
    (h : p.sweeperStep thread epoch old = some q) :
    ∃ new r, SweeperMove p epoch old new r ∧ q = r.setSweeper thread new := by
  cases old with
  | beginning =>
    simp only [sweeperStep] at h
    split at h
    · rename_i tick ahead
      exact ⟨_, _, .begin ahead, (Option.some.inj h).symm⟩
    · rename_i beyond
      exact ⟨_, _, .stumble beyond, (Option.some.inj h).symm⟩
  | awake tick =>
    simp only [sweeperStep] at h
    split at h
    · rename_i leaves
      exact ⟨_, _, .leave leaves, (Option.some.inj h).symm⟩
    · rename_i stays
      obtain ⟨opened, current⟩ := not_or.mp stays
      rw [Bool.not_eq_true] at opened
      rw [Classical.not_not] at current
      unfold sweepStep at h
      split at h
      · rename_i beyond
        exact ⟨_, _, .fall opened current beyond, (Option.some.inj h).symm⟩
      · rename_i deadline early
        exact ⟨_, _, .sleep opened current early, (Option.some.inj h).symm⟩
      · rename_i next dismissed kept due
        split at h
        · rename_i nobody
          rw [List.isEmpty_iff.mp nobody] at due
          exact ⟨_, _, .skip opened current due, (Option.some.inj h).symm⟩
        · rename_i late
          obtain ⟨slots, stopped, rfl⟩ := Option.map_eq_some_iff.mp h
          exact ⟨_, _, .evict opened current due (by simpa using late) stopped, rfl⟩
  | asleep | gone | fallen => cases h

/-- Every step is a move. -/
theorem Move.of_step {label : Label α} (h : p.step label = some q) : p.Move label q := by
  cases label with
  | pass => cases h; exact .pass
  | invoke => cases h; exact .invoke
  | call call wakes =>
    obtain ⟨old, now, h⟩ := Option.bind_eq_some_iff.mp h
    obtain ⟨new, r, moves, rfl⟩ := callStep_move h
    exact .call now moves
  | thread call granted =>
    obtain ⟨old, now, h⟩ := Option.bind_eq_some_iff.mp h
    obtain ⟨new, r, moves, rfl⟩ := threadStep_move h
    exact .thread now moves
  | stir call =>
    simp only [step] at h
    split at h
    · rename_i waits
      obtain ⟨since, now⟩ := isWaiting_iff.mp waits
      cases h
      exact .stir now
    · cases h
  | worker thread wakes =>
    obtain ⟨⟨slot, old⟩, now, h⟩ := Option.bind_eq_some_iff.mp h
    obtain ⟨new, r, moves, rfl⟩ := workerStep_move h
    exact .worker now moves
  | finish thread outcome =>
    obtain ⟨⟨slot, old⟩, now, h⟩ := Option.bind_eq_some_iff.mp h
    cases old <;> try cases h
    cases outcome <;> exact .finish now
  | sweeper thread =>
    obtain ⟨⟨epoch, old⟩, now, h⟩ := Option.bind_eq_some_iff.mp h
    obtain ⟨new, r, moves, rfl⟩ := sweeperStep_move h
    exact .sweeper now moves
  | stirSweeper thread =>
    obtain ⟨⟨epoch, old⟩, now, h⟩ := Option.bind_eq_some_iff.mp h
    cases old <;> try cases h
    exact .stirSweeper now

end Pool
end WorkerPool
