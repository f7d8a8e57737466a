import WorkerPool.Proofs.Pool.Conservation
import WorkerPool.Proofs.Pool.Ledger
import WorkerPool.Proofs.Pool.Wakeup

/-!
# The balance of a pool

The gauge of waiting workers is set whenever the roster changes. A counter says how often something has
happened, less what has happened and has not been counted yet. When a pool is at rest nothing is left to
be counted, and all numbers that it shows agree with its workers, with its slots, with what its calls
have returned and with the ledger. Counters are words of 64 bits, and so are the totals they show.
-/

namespace WorkerPool

open Metrics (Counter)

def Phase.isStarted : Phase → Bool
  | .started _ => true
  | _ => false

def Phase.isRejected : Phase → Bool
  | .returned (.failed .closed) => true
  | _ => false

def WorkerPhase.isUnwound : WorkerPhase → Bool
  | .unwound _ => true
  | _ => false

def WorkerPhase.isGone : WorkerPhase → Bool
  | .gone => true
  | _ => false

/-- By how much the next step of a call raises a counter. -/
def Phase.raises : Phase → Counter → Nat
  | .started _, .spawned | .handedOver, .submitted | .turnedAway, .rejected => 1
  | _, _ => 0

def WorkerPhase.raises : WorkerPhase → Counter → Nat
  | .unwound _, .panicked => 1
  | _, _ => 0

def Entry.counts : Counter → Entry → Bool
  | .evicted, .evicted | .panicked, .finished true => true
  | _, _ => false

theorem Metrics.Meters.counter_count (m : Metrics.Meters) (c d : Counter) (n : Nat) :
    (m.count c n).counter d = if d = c then m.counter c + .ofNat n else m.counter d :=
  m.counter_put c d _

/-- What is left to be counted shrinks by what a counter is raised. -/
theorem counter_of_raised {word next : UInt64} {raised due due' total total' : Nat}
    (h : word + .ofNat due = .ofNat total) (raise : next = word + .ofNat raised)
    (sum : raised + due' + total = due + total') : next + .ofNat due' = .ofNat total' := by
  have sum := congrArg UInt64.ofNat sum
  simp only [UInt64.ofNat_add, ← h, raise] at sum ⊢
  apply (UInt64.add_right_inj (.ofNat due)).mp
  rw [← sum]
  ac_rfl

namespace Pool

variable {α : Type} {plan : Plan} {p q r start : Pool α} {label : Label α} {labels : List (Label α)}
  {call thread slot : Nat} {wakes : Option Nat} {ledger : List Entry}

def Gauged (p : Pool α) : Prop := p.meters.idle = .ofNat p.idle.size

theorem Gauged.move (h : Gauged p) (moves : p.Move label q) : Gauged q := by
  cases moves with
  | call now moves => cases moves <;> first | exact h | rfl
  | thread now moves => cases moves <;> exact h
  | worker now moves => cases moves <;> first | exact h | rfl
  | sweeper now moves => cases moves <;> first | exact h | rfl
  | _ => exact h

theorem Reachable.gauged (reached : Reachable plan p) : Gauged p :=
  reached.induction (P := Gauged) (fun _ => rfl) fun _ h moves => h.move moves

/-- What has happened and has not been counted yet. -/
def due (p : Pool α) : Counter → Nat
  | .spawned => p.callsIn Phase.isStarted
  | .submitted => p.callsIn Phase.isHandedOver
  | .panicked => p.workersIn (·.phase.isUnwound)
  | .evicted | .rejected => 0

/-- How often what a counter counts can be seen to have happened. -/
def seen (p : Pool α) : Counter → Nat
  | .spawned => p.workersIn fun _ => true
  | .submitted => p.handed
  | .rejected => p.callsIn Phase.isRejected
  | .evicted | .panicked => 0

/-- A counter and what it still lacks are what can be seen and what is in the ledger. -/
def Counted (p : Pool α) (ledger : List Entry) : Prop :=
  ∀ counter, p.meters.counter counter + .ofNat (p.due counter) =
    .ofNat (p.seen counter + ledger.countP (Entry.counts counter))

theorem blind_isStarted : Blind fun _ => Phase.isStarted := fun _ phase => by cases phase <;> rfl

theorem blind_isHandedOver : Blind fun _ => Phase.isHandedOver := fun _ phase => by
  cases phase <;> rfl

theorem blind_isRejected : Blind fun _ => Phase.isRejected := fun _ phase => by cases phase <;> rfl

section Moves

variable {old new : Phase}

theorem CallMove.counter (moves : CallMove p call wakes old new q) (counter : Counter) :
    q.meters.counter counter = p.meters.counter counter + .ofNat (old.raises counter) := by
  cases moves <;> cases counter <;> simp [Phase.raises, setIdle, note, setCell,
    Pool.wakeSubmitters, Pool.wakeSweepers, Metrics.Meters.counter_count]

theorem CallMove.due (moves : CallMove p call wakes old new q) (now : p.phase? call = some old)
    (h : Tokens p) (accounted : Accounted p) (counter : Counter) :
    old.raises counter + (q.setPhase call new).due counter + p.seen counter =
      p.due counter + (q.setPhase call new).seen counter := by
  have workers := moves.workersIn
  cases counter with
  | spawned =>
    have started := moves.callsIn now fun _ => blind_isStarted
    have never : new.isStarted = false := by cases moves <;> rfl
    have raises : old.raises .spawned = old.isStarted.toNat := by cases old <;> rfl
    rw [never, Bool.toNat_false] at started
    simp only [Pool.due, seen]
    rw [workers]
    omega
  | submitted =>
    obtain ⟨c, made, rfl⟩ := Option.map_eq_some_iff.mp now
    have handing := moves.callsIn now fun _ => blind_isHandedOver
    have handed := moves.count_views made fun _ => blind_delivers
    have delivers := moves.delivers (accounted.admits made)
    have raises : c.phase.raises .submitted = c.phase.isHandedOver.toNat := by cases c.phase <;> rfl
    simp only [Pool.due, seen, Pool.handed]
    omega
  | rejected =>
    have rejected := moves.callsIn now fun _ => blind_isRejected
    have before : old.isRejected = false := by cases moves <;> rfl
    -- The channel of a worker that is held is open, so no submission fails on it.
    have after : new.isRejected.toNat = old.raises .rejected := by
      cases moves with
      | lose gone => exact (h.send_ne_refused now gone).elim
      | _ => rfl
    rw [before, Bool.toNat_false] at rejected
    simp only [Pool.due, seen]
    omega
  | evicted =>
    have raises : old.raises .evicted = 0 := by cases old <;> rfl
    rw [raises]
    rfl
  | panicked =>
    have raises : old.raises .panicked = 0 := by cases old <;> rfl
    simp only [Pool.due, seen]
    rw [raises, workers]
    omega

theorem ThreadMove.meters {granted : Bool} (moves : ThreadMove p granted old new q) :
    q.meters = p.meters := by
  cases moves <;> rfl

theorem ThreadMove.due {granted : Bool} (moves : ThreadMove p granted old new q)
    (now : p.phase? call = some old) (accounted : Accounted p) (counter : Counter) :
    (q.setPhase call new).due counter + p.seen counter =
      p.due counter + (q.setPhase call new).seen counter := by
  have workers (trade : Worker → Bool) : (q.setPhase call new).workersIn trade = _ :=
    moves.workersIn trade
  cases counter with
  | spawned =>
    have started := moves.callsIn now Phase.isStarted
    have before : old.isStarted = false := by cases moves <;> rfl
    have hired : (new.hired.any fun _ => true) = new.isStarted := by cases moves <;> rfl
    rw [before, Bool.toNat_false] at started
    simp only [Pool.due, seen]
    rw [workers, hired]
    omega
  | submitted =>
    have handing := moves.callsIn now Phase.isHandedOver
    have same : old.isHandedOver = new.isHandedOver := by cases moves <;> rfl
    rw [same] at handing
    obtain ⟨c, made, rfl⟩ := Option.map_eq_some_iff.mp now
    have handed := moves.count_views made Op.delivers
    rw [moves.delivers (accounted.admits made)] at handed
    simp only [Pool.due, seen, Pool.handed]
    omega
  | rejected =>
    have rejected := moves.callsIn now Phase.isRejected
    have same : old.isRejected = new.isRejected := by cases moves <;> rfl
    rw [same] at rejected
    simp only [Pool.due, seen]
    omega
  | evicted => rfl
  | panicked =>
    have hired : new.hired.any (·.phase.isUnwound) = false := by cases moves <;> rfl
    simp only [Pool.due, seen]
    rw [workers, hired]
    rfl

end Moves

theorem WorkerMove.counter {old new : WorkerPhase} (moves : WorkerMove p slot wakes old new q)
    (counter : Counter) :
    q.meters.counter counter = p.meters.counter counter + .ofNat (old.raises counter) := by
  cases moves <;> cases counter <;> simp [WorkerPhase.raises, setIdle, note,
    Metrics.Meters.counter_count]

theorem SweeperMove.counter {epoch : Nat} {old new : SweeperPhase}
    (moves : SweeperMove p epoch old new q) (counter : Counter) :
    q.meters.counter counter = p.meters.counter counter +
      .ofNat ((p.entries (.sweeper thread) q).countP (Entry.counts counter)) := by
  cases moves with
  | @evict tick next dismissed kept slots opened current due late stopped =>
    have size := Roster.size_sweep due
    have gone : p.idle.size - kept.size = dismissed.length := by omega
    cases counter <;> simp [Pool.entries, setIdle, note, gone, Entry.counts, Metrics.Meters.counter_count,
      List.countP_replicate]
  | _ => simp [Pool.entries, note]

theorem Move.seen_of_others (moves : p.Move label q) (others : label.caller? = none)
    (counter : Counter) : q.seen counter = p.seen counter := by
  cases counter with
  | spawned =>
    cases moves with
    | call | thread => cases others
    | worker now moves => exact Nat.add_right_cancel (moves.workersIn (fun _ => true) now)
    | finish now => exact Nat.add_right_cancel (workersIn_finish (fun _ => true) _ now)
    | sweeper now moves => exact moves.workersIn _
    | _ => rfl
  | submitted =>
    exact moves.count_views_of_others others blind_delivers fun op => by cases op <;> rfl
  | rejected =>
    exact moves.callsIn_of_others others blind_isRejected fun op => by cases op <;> rfl
  | evicted | panicked => rfl

theorem Move.due_of_others (moves : p.Move label q) (others : label.caller? = none)
    {counter : Counter} (other : counter ≠ .panicked) : q.due counter = p.due counter := by
  cases counter with
  | spawned => exact moves.callsIn_of_others others blind_isStarted fun op => by cases op <;> rfl
  | submitted => exact moves.callsIn_of_others others blind_isHandedOver fun op => by cases op <;> rfl
  | panicked => exact absurd rfl other
  | evicted | rejected => rfl

theorem Counted.of_others {raised : Counter → Nat} (h : Counted p ledger) (moves : p.Move label q)
    (others : label.caller? = none)
    (raise : ∀ counter, q.meters.counter counter = p.meters.counter counter + .ofNat (raised counter))
    (enters : ∀ counter, counter ≠ .panicked →
      raised counter = (p.entries label q).countP (Entry.counts counter))
    (panics : raised .panicked + q.workersIn (·.phase.isUnwound) =
      p.workersIn (·.phase.isUnwound) + (p.entries label q).countP (Entry.counts .panicked)) :
    Counted q (ledger ++ p.entries label q) := by
  intro counter
  have same := moves.seen_of_others others counter
  apply counter_of_raised (h counter) (raise counter)
  rw [List.countP_append]
  by_cases panic : counter = .panicked
  -- A panic is in the ledger once the task has ended, and the worker counts it a step later.
  · subst panic
    simp only [due]
    omega
  · have due := moves.due_of_others others panic
    have enters := enters counter panic
    omega

theorem Counted.of_quiet (h : Counted p ledger) (moves : p.Move label q)
    (others : label.caller? = none) (meters : q.meters = p.meters) (workers : q.workers = p.workers)
    (nothing : p.entries label q = []) : Counted q (ledger ++ p.entries label q) := by
  apply h.of_others moves others
  · intro counter
    rw [meters]
    exact (UInt64.add_zero _).symm
  · intro counter _
    rw [nothing]
    rfl
  · rw [nothing, workersIn, workersIn, workers]
    exact Nat.zero_add _

theorem Counted.callMove {old new : Phase} (h : Counted p ledger) (tokens : Tokens p)
    (accounted : Accounted p) (now : p.phase? call = some old)
    (moves : CallMove p call wakes old new q) :
    Counted (q.setPhase call new) (ledger ++ p.entries (.call call wakes) (q.setPhase call new)) := by
  intro counter
  have due := moves.due now tokens accounted counter
  apply counter_of_raised (h counter) (moves.counter counter)
  have nothing : (List.replicate new.stopped Entry.drained).countP (Entry.counts counter) = 0 := by
    rw [List.countP_replicate]
    cases counter <;> rfl
  rw [List.countP_append, moves.entries, nothing]
  omega

theorem Counted.threadMove {granted : Bool} {old new : Phase} (h : Counted p ledger)
    (accounted : Accounted p) (now : p.phase? call = some old)
    (moves : ThreadMove p granted old new q) : Counted (q.setPhase call new) ledger := by
  intro counter
  have due := moves.due now accounted counter
  have raise : (q.setPhase call new).meters.counter counter =
      p.meters.counter counter + .ofNat 0 := by
    rw [← moves.meters]
    exact (UInt64.add_zero _).symm
  apply counter_of_raised (h counter) raise
  omega

theorem Counted.workerMove {old new : WorkerPhase} (h : Counted p ledger)
    (now : p.workers[thread]? = some ⟨slot, old⟩) (moves : WorkerMove p slot wakes old new q) :
    Counted (q.setWorker thread new)
      (ledger ++ p.entries (.worker thread wakes) (q.setWorker thread new)) := by
  have nothing (counter : Counter) : (p.entries (.worker thread wakes) (q.setWorker thread new)).countP
      (Entry.counts counter) = 0 := by
    simp only [entries]
    split <;> cases counter <;> rfl
  apply h.of_others (.worker now moves) rfl moves.counter
  · intro counter other
    rw [nothing]
    cases counter <;> cases old <;> first | rfl | exact absurd rfl other
  · have workers := moves.workersIn WorkerPhase.isUnwound now
    have never : new.isUnwound = false := by cases moves <;> rfl
    have raises : old.raises .panicked = old.isUnwound.toNat := by cases old <;> rfl
    rw [never, Bool.toNat_false] at workers
    rw [nothing]
    omega

theorem Counted.finish {task : Nat} (h : Counted p ledger)
    (now : p.workers[thread]? = some ⟨slot, .executing task⟩) (outcome : Outcome α) :
    Counted ((p.setCell task outcome.cell).setWorker thread outcome.aftermath)
      (ledger ++ [.finished outcome.isPanic]) := by
  apply h.of_others (.finish now) rfl fun _ => (UInt64.add_zero _).symm
  · intro counter other
    cases counter <;> first | rfl | exact absurd rfl other
  · have workers := workersIn_finish WorkerPhase.isUnwound outcome now
    have unwinds : outcome.aftermath.isUnwound = outcome.isPanic := by cases outcome <;> rfl
    have entered : [Entry.finished outcome.isPanic].countP (Entry.counts .panicked) =
        outcome.isPanic.toNat := by cases outcome <;> rfl
    rw [unwinds] at workers
    change 0 + _ = _ + [Entry.finished outcome.isPanic].countP _
    rw [entered, Nat.zero_add]
    exact workers

theorem Counted.sweeperMove {epoch : Nat} {old new : SweeperPhase} (h : Counted p ledger)
    (now : p.sweepers[thread]? = some ⟨epoch, old⟩) (moves : SweeperMove p epoch old new q) :
    Counted (q.setSweeper thread new)
      (ledger ++ p.entries (.sweeper thread) (q.setSweeper thread new)) := by
  have raise (counter : Counter) : q.meters.counter counter = p.meters.counter counter +
      .ofNat ((p.entries (.sweeper thread) q).countP (Entry.counts counter)) := moves.counter counter
  apply h.of_others (.sweeper now moves) rfl raise
  · exact fun counter _ => rfl
  · have same : (q.setSweeper thread new).workersIn (·.phase.isUnwound) = _ := moves.workersIn _
    rw [same]
    exact Nat.add_comm ..

theorem Counted.move (h : Counted p ledger) (tokens : Tokens p) (accounted : Accounted p)
    (moves : p.Move label q) : Counted q (ledger ++ p.entries label q) := by
  cases moves with
  | call now moves => exact h.callMove tokens accounted now moves
  | thread now moves =>
    change Counted _ (ledger ++ [])
    rw [List.append_nil]
    exact h.threadMove accounted now moves
  | worker now moves => exact h.workerMove now moves
  | finish now => exact h.finish now _
  | sweeper now moves => exact h.sweeperMove now moves
  | pass => exact h.of_quiet .pass rfl rfl rfl rfl
  | invoke => exact h.of_quiet .invoke rfl rfl rfl rfl
  | stir now => exact h.of_quiet (.stir now) rfl rfl rfl rfl
  | stirSweeper now => exact h.of_quiet (.stirSweeper now) rfl rfl rfl rfl

structure Recorded (p : Pool α) (ledger : List Entry) : Prop where
  counters : Counted p ledger
  departures : p.departures = ledger.countP Entry.isDeparture
  tasks : p.handed = p.underway + ledger.countP Entry.isFinish

theorem Recorded.move (h : Recorded p ledger) (tokens : Tokens p) (accounted : Accounted p)
    (moves : p.Move label q) : Recorded q (ledger ++ p.entries label q) := by
  constructor
  · exact h.counters.move tokens accounted moves
  · rw [moves.departures tokens, h.departures, List.countP_append]
  · have tasks := moves.tasks tokens accounted
    have before := h.tasks
    rw [List.countP_append]
    omega

theorem Recorded.run (built : build plan true = .ok start) (ran : start.run labels = some p) :
    Recorded p (start.gather entries labels) := by
  have first : Recorded (fresh α plan) [] := ⟨fun counter => by cases counter <;> rfl, rfl, rfl⟩
  apply gather_induction (P := Recorded) built ran first
  intro r s label ledger before h moves
  exact h.move before.tokens before.accounted moves

theorem Quiescent.messages (quiet : Quiescent p) (tokens : Tokens p) (kind : Message Nat → Bool) :
    p.slots.messages kind = 0 := by
  have nothing : p.slots.channels.flatMap (·.queue) = [] := by
    apply List.flatMap_eq_nil_iff.mpr
    intro c member
    obtain ⟨slot, there⟩ := List.mem_iff_getElem?.mp member
    have channel : p.slots.channel slot = c := by simp [Slots.channel, there]
    rw [← channel]
    exact List.length_eq_zero_iff.mp (quiet.pending tokens slot)
  rw [Slots.messages, nothing, List.countP_nil]

/-- Number of worker threads that have ended. -/
def retired (p : Pool α) : Nat := p.workersIn (·.phase.isGone)

/-- Number of submissions that have returned without an error. -/
def accepted (p : Pool α) : Nat :=
  (p.views fun op phase => op.isTask && phase == .returned .done).count true

/-- Number of submissions that have returned as the pool is closed. -/
def rejected (p : Pool α) : Nat := p.callsIn Phase.isRejected

theorem Quiescent.due_eq_zero (quiet : Quiescent p) (counter : Counter) : p.due counter = 0 := by
  cases counter with
  | spawned | submitted =>
    exact quiet.callsIn_eq_zero fun phase rests => by cases phase <;> first | rfl | cases rests
  | panicked =>
    exact quiet.workersIn_eq_zero WorkerPhase.isUnwound rfl (fun _ => rfl) rfl rfl
  | evicted | rejected => rfl

theorem Quiescent.handed_eq (quiet : Quiescent p) : p.handed = p.accepted := by
  unfold handed accepted views
  simp only [List.count, List.countP_map]
  apply List.countP_congr
  intro c member
  have rests := quiet.calls c member
  cases phase : c.phase with
  | waiting => simp [phase, Op.delivers]
  | returned answer => cases answer <;> simp [phase, Op.delivers]
  | _ =>
    rw [phase] at rests
    cases rests

theorem Quiescent.workers_eq (quiet : Quiescent p) :
    (p.workersIn fun _ => true) = p.counted + p.retired := by
  have parts : (p.workersIn fun w => w.phase.counts || w.phase.isGone) = p.counted + p.retired :=
    workersIn_add (fun w => by cases w.phase <;> rfl) p
  rw [← parts]
  exact quiet.workersIn_congr (fun _ => true) (fun phase => phase.counts || phase.isGone) rfl
    (fun _ => rfl) rfl rfl

theorem countP_isDeparture (ledger : List Entry) : ledger.countP Entry.isDeparture =
    ledger.count .evicted + ledger.count .drained + ledger.count .departed := by
  induction ledger with
  | nil => rfl
  | cons entry ledger ih =>
    cases entry <;> simp [Entry.isDeparture, List.countP_cons, ih] <;> omega

def total (p : Pool α) (ledger : List Entry) : Counter → Nat
  | .spawned => p.workersIn fun _ => true
  | .evicted => ledger.count .evicted
  | .submitted => p.handed
  | .panicked => ledger.count (.finished true)
  | .rejected => p.rejected

theorem seen_add_countP (p : Pool α) (ledger : List Entry) (counter : Counter) :
    p.seen counter + ledger.countP (Entry.counts counter) = p.total ledger counter := by
  cases counter with
  | evicted =>
    rw [seen, Nat.zero_add]
    apply List.countP_congr
    intro entry _
    cases entry <;> simp [Entry.counts]
  | panicked =>
    rw [seen, Nat.zero_add]
    apply List.countP_congr
    intro entry _
    rcases entry with _ | _ | _ | _ | _ <;> simp [Entry.counts]
  | _ =>
    have nothing : ledger.countP (fun _ => false) = 0 :=
      List.countP_eq_zero.mpr fun _ _ => Bool.false_ne_true
    exact congrArg (Pool.seen p _ + ·) nothing

/-- What the books of a pool at rest say, given how many workers were refused a thread, how many have
fallen, and the ledger of the run. -/
structure BalanceSheet (p : Pool α) (refused fallen : Nat) (ledger : List Entry) : Prop where
  running : p.running = p.idle.size + p.executing + fallen
  allocated : p.slots.allocated = p.slots.cached + p.running + refused
  spawned : p.meters.spawned = .ofNat (p.running + p.retired)
  retired : p.retired = ledger.count .evicted + ledger.count .drained + ledger.count .departed
  evicted : p.meters.evicted = .ofNat (ledger.count .evicted)
  submitted : p.meters.submitted = .ofNat p.accepted
  accepted : p.accepted = ledger.countP Entry.isFinish + p.executing
  rejected : p.meters.rejected = .ofNat p.rejected
  panicked : p.meters.panicked = .ofNat (ledger.count (.finished true))

theorem Recorded.counter_eq (h : Recorded p ledger) (quiet : Quiescent p) (counter : Counter) :
    p.meters.counter counter = .ofNat (p.total ledger counter) := by
  have counted := h.counters counter
  rw [quiet.due_eq_zero, seen_add_countP] at counted
  exact (UInt64.add_zero _).symm.trans counted

theorem Recorded.balanceSheet (h : Recorded p ledger) (quiet : Quiescent p) (tokens : Tokens p)
    (balanced : Balanced p) {refused : Nat}
    (allocated : p.slots.allocated = p.slots.cached + p.taken + refused) :
    BalanceSheet p refused p.fallen.length ledger := by
  have running := quiet.running_eq balanced
  have counted := quiet.counted_eq tokens
  have live : p.workersIn (·.phase.isLive) = p.counted :=
    quiet.workersIn_congr WorkerPhase.isLive WorkerPhase.counts rfl (fun _ => rfl) rfl rfl
  have starting : p.callsIn Phase.isStarting = 0 :=
    quiet.callsIn_eq_zero fun phase rests => by cases phase <;> first | rfl | cases rests
  have gone : p.workersIn (·.phase.departs) = p.retired :=
    quiet.workersIn_congr WorkerPhase.departs WorkerPhase.isGone rfl (fun _ => rfl) rfl rfl
  have departures := h.departures
  have tasks := h.tasks
  rw [Pool.departures, quiet.messages tokens, gone, countP_isDeparture] at departures
  rw [quiet.handed_eq, underway, quiet.messages tokens] at tasks
  constructor
  · omega
  · rw [taken, tally, starting, live, Nat.zero_add] at allocated
    rw [allocated, running]
  · rw [running, ← quiet.workers_eq]
    exact h.counter_eq quiet .spawned
  · exact departures
  · exact h.counter_eq quiet .evicted
  · rw [← quiet.handed_eq]
    exact h.counter_eq quiet .submitted
  · omega
  · exact h.counter_eq quiet .rejected
  · exact h.counter_eq quiet .panicked

theorem raises_of_admits {op : Op} {phase : Phase} (h : op = .release ∨ op = .restart)
    (admitted : op.admits phase = true) (counter : Counter) : phase.raises counter = 0 := by
  rcases h with rfl | rfl <;> cases phase <;> first | rfl | cases admitted

/-- In every pool the gauge of waiting workers shows how many there are, and no release or restart
changes a counter. In a pool at rest all numbers agree, and after a gentle run no worker has fallen. -/
theorem balance_sheet (built : build plan true = .ok start) (ran : start.run labels = some p) :
    p.meters.idle = .ofNat p.idle.size ∧
    (Quiescent p → BalanceSheet p (start.lost labels).length p.fallen.length (start.gather entries labels)) ∧
    (Quiescent p → Gentle plan labels →
      BalanceSheet p (start.lost labels).length 0 (start.gather entries labels)) ∧
    ∀ call c label q, p.calls[call]? = some c → c.op = .release ∨ c.op = .restart →
      label.caller? = some call → p.step label = some q →
        ∀ counter, q.meters.counter counter = p.meters.counter counter := by
  have reached : Reachable plan p := ⟨start, labels, built, ran⟩
  have sheet (quiet : Quiescent p) :
      BalanceSheet p (start.lost labels).length p.fallen.length (start.gather entries labels) :=
    (Recorded.run built ran).balanceSheet quiet reached.tokens reached.balanced (allocated_eq_add built ran)
  refine ⟨reached.gauged, sheet, ?_, ?_⟩
  · intro quiet gentle
    have up : p.fallen.length = 0 := congrArg List.length (fallen_eq_nil built ran gentle)
    exact up ▸ sheet quiet
  · intro call c label q made opens caller stepped counter
    have admitted := reached.accounted.admits made
    cases Move.of_step stepped with
    | call now moves =>
      cases caller
      have same : p.phase? call = some c.phase := by rw [phase?, made, Option.map_some]
      cases same.symm.trans now
      have raise := moves.counter counter
      rw [raises_of_admits opens admitted] at raise
      exact raise.trans (UInt64.add_zero _)
    | thread now moves => exact congrArg (·.counter counter) moves.meters
    | _ => cases caller

/-- A pool at rest with a worker that waits and one that executes a task. Of the others, one was refused
its thread, one was evicted, one was told to stop by a release and one found the pool closed. -/
theorem balance_sheet_of_seven_submissions : ∃ (start p : Pool Unit) (labels : List (Label Unit)),
    build { capacity := 3 } true = .ok start ∧ start.run labels = some p ∧ Quiescent p ∧
    Gentle { capacity := 3 } labels ∧ start.lost labels = [0] ∧
    start.gather entries labels = [.finished false, .evicted, .finished true, .drained, .finished false,
      .departed, .finished false] ∧
    p.idle.size = 1 ∧ p.executing = 1 ∧ p.retired = 3 ∧ p.meters.idle = 1 ∧
    BalanceSheet p (start.lost labels).length 0 (start.gather entries labels) := by
  let plan : Plan := { capacity := 3 }
  let start : Pool Unit := fresh Unit plan
  let leave (thread : Nat) : List (Label Unit) := List.replicate 6 (.worker thread none)
  let release (call : Nat) : List (Label Unit) :=
    [.invoke .release, .call call none, .call call none, .call call none]
  let restart (call : Nat) : List (Label Unit) :=
    [.invoke .restart, .call call none, .thread call true]
  let evicted : List (Label Unit) :=
    [.sweeper 0, .finish 0 (.returned ()), .worker 0 none, .pass plan.expiry.nanos, .sweeper 0]
  let panicked : List (Label Unit) :=
    [.finish 1 (.panicked .opaqueValue), .worker 1 none, .worker 1 none]
  let labels : List (Label Unit) :=
    [.invoke .submit, .call 0 none, .call 0 none, .thread 0 false, .call 0 none, .call 0 none] ++
      hiring 1 0 ++ hiring 2 1 ++ evicted ++ leave 0 ++ panicked ++ release 3 ++ leave 1 ++
      [.invoke .submit, .call 4 none, .call 4 none] ++ restart 5 ++ hiring 6 2 ++ hiring 7 3 ++
      release 8 ++ [.finish 2 (.returned ())] ++ leave 2 ++ restart 9 ++ hiring 10 4 ++
      [.finish 4 (.returned ()), .worker 4 none]
  have built : build plan true = .ok start := rfl
  have seen : (start.run labels).any (fun p => Quiescent p ∧ p.idle.size = 1 ∧ p.executing = 1 ∧
      p.retired = 3) = true := by decide +kernel
  have gentle : Gentle plan labels := by decide +kernel
  have lost : start.lost labels = [0] := by decide +kernel
  have ledger : start.gather entries labels = [.finished false, .evicted, .finished true, .drained,
      .finished false, .departed, .finished false] := by decide +kernel
  obtain ⟨p, ran, seen⟩ := (Option.any_eq_true _ _).mp seen
  obtain ⟨quiet, idle, executing, retired⟩ := of_decide_eq_true seen
  obtain ⟨gauge, -, balance, -⟩ := balance_sheet built ran
  rw [idle] at gauge
  exact ⟨start, p, labels, built, ran, quiet, gentle, lost, ledger, idle, executing, retired, gauge,
    balance quiet gentle⟩

/-- A pool at rest counts a worker as running that neither waits nor executes a task. -/
theorem running_of_fallen_worker : ∃ p : Pool Unit, Reachable { capacity := 1 } p ∧ Quiescent p ∧
    p.running = 1 ∧ p.idle.size = 0 ∧ p.executing = 0 := by
  obtain ⟨p, reached, seen⟩ := exists_reachable { capacity := 1 } (falling : List (Label Unit))
    (fun p => Quiescent p ∧ p.running = 1 ∧ p.idle.size = 0 ∧ p.executing = 0) (by decide)
  exact ⟨p, reached, of_decide_eq_true seen⟩

end Pool
end WorkerPool
