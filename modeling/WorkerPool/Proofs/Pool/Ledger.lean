import WorkerPool.Proofs.Pool.Delivery

/-!
# The ledger of a run

A pool keeps no record of why its workers have left or how its tasks have ended. The steps of a run are
entered in a ledger instead. A worker leaves because it has been told to stop or because it has found
the pool closed, so the workers that leave and the dismissals still in channels are as many as the
entries that say so. A task that has been handed over is in a channel, is executed, or has ended.
-/

namespace WorkerPool

inductive Entry
  /-- A sweeper has told a worker to stop. -/
  | evicted
  /-- A release has told a worker to stop. -/
  | drained
  /-- A worker that was done with a task has found the pool closed. -/
  | departed
  /-- A task has ended. -/
  | finished (panicked : Bool)
  deriving DecidableEq, Repr

def Entry.isDeparture : Entry → Bool
  | .evicted | .drained | .departed => true
  | .finished _ => false

def Entry.isFinish : Entry → Bool
  | .finished _ => true
  | _ => false

def Outcome.isPanic {α : Type} : Outcome α → Bool
  | .returned _ => false
  | .panicked _ => true

def WorkerPhase.departs : WorkerPhase → Bool
  | .retiring | .lowering | .lowered | .publishing _ | .leaving | .gone => true
  | _ => false

def Phase.stopped : Phase → Nat
  | .wakingSubmitters stopped => stopped
  | _ => 0

namespace Pool

variable {α : Type} {p q r : Pool α} {label : Label α} {call thread slot : Nat} {wakes : Option Nat}

/-- What is entered in the ledger when a step leads from one pool to another. -/
def entries (p : Pool α) : Label α → Pool α → List Entry
  | .call _ _, q => if q.closed && !p.closed then List.replicate p.idle.size .drained else []
  | .worker thread _, _ =>
    if p.closed && p.workers[thread]?.any (·.phase == .parking) then [.departed] else []
  | .finish _ outcome, _ => [.finished outcome.isPanic]
  | .sweeper _, q => List.replicate (p.idle.size - q.idle.size) .evicted
  | _, _ => []

/-- Number of workers that are on their way out or gone, and of those that have yet to hear of it. -/
def departures (p : Pool α) : Nat :=
  p.workersIn (·.phase.departs) + p.slots.messages Message.isStop

def handed (p : Pool α) : Nat := (p.views Op.delivers).count true

/-- Number of tasks in channels and with workers. -/
def underway (p : Pool α) : Nat := p.executing + p.slots.messages Message.isRun

theorem messages_stopAll_isStop {workers : List Nat} {told : Slots (Message Nat)} (h : Tokens p)
    (some : workers.Sublist p.idle.workers) (stopped : stopAll p.slots workers = .some told) :
    told.messages Message.isStop = p.slots.messages Message.isStop + workers.length := by
  have empty : ∀ worker ∈ workers, p.slots.channel worker = {} := by
    intro worker member
    exact h.channel_of_idle (some.subset member)
  have more := messages_stopAll_of_empty (h.idle_nodup.sublist some) empty stopped Message.isStop
  rwa [Message.isStop, Bool.toNat_true, Nat.mul_one] at more

section Moves

variable {old new : Phase}

theorem CallMove.entries (moves : CallMove p call wakes old new q) :
    p.entries (.call call wakes) (q.setPhase call new) = List.replicate new.stopped .drained := by
  have still : ¬(p.closed && !p.closed) = true := by simp
  cases moves with
  | close opened =>
    have closes : (true && !p.closed) = true := by simp [opened]
    rw [Phase.stopped, Roster.length_workers]
    exact if_pos closes
  | reopen => rfl
  | _ => exact if_neg still

theorem CallMove.dismissals (moves : CallMove p call wakes old new q) (h : Tokens p) :
    q.slots.messages Message.isStop = p.slots.messages Message.isStop + new.stopped := by
  cases moves with
  | take => exact Slots.messages_take rfl _
  | hand sent => exact Slots.messages_send sent _
  | close opened stopped => exact messages_stopAll_isStop h (.refl _) stopped
  | _ => rfl

theorem CallMove.runs (moves : CallMove p call wakes old new q) :
    q.slots.messages Message.isRun = p.slots.messages Message.isRun + new.isHandedOver.toNat := by
  cases moves with
  | take => exact Slots.messages_take rfl _
  | hand sent => exact Slots.messages_send sent _
  | close opened stopped => exact messages_stopAll rfl stopped
  | _ => rfl

theorem ThreadMove.messages {granted : Bool} (moves : ThreadMove p granted old new q) (h : Tokens p)
    (now : p.phase? call = some old) (kind : Message Nat → Bool) :
    q.slots.messages kind = p.slots.messages kind := by
  cases moves with
  | @refuse slot =>
    have empty := h.channel_of_holds now (beq_self_eq_true slot)
    exact Slots.messages_hangUp empty kind
  | _ => rfl

end Moves

section Moves

variable {old new : WorkerPhase}

/-- A worker that leaves has taken a dismissal out of its channel or is entered in the ledger. -/
theorem WorkerMove.dismissals (moves : WorkerMove p slot wakes old new q) (h : Tokens p)
    (now : p.workers[thread]? = some ⟨slot, old⟩) :
    q.slots.messages Message.isStop + new.departs.toNat =
      p.slots.messages Message.isStop + old.departs.toNat +
        (p.entries (.worker thread wakes) r).countP Entry.isDeparture := by
  have silent (others : ¬(p.closed && old == .parking) = true) :
      (p.entries (.worker thread wakes) r).countP Entry.isDeparture = 0 := by
    simp [entries, now, others]
  cases moves with
  | execute got =>
    rw [silent (by simp)]
    exact Slots.messages_receive got _
  | stop got =>
    rw [silent (by simp)]
    exact Slots.messages_receive got _
  | turnAway closed => simp [entries, now, closed, WorkerPhase.departs, Entry.isDeparture]
  | park opened =>
    rw [silent (by simp [opened])]
    rfl
  -- A channel given back is empty already, so no dismissal is thrown away.
  | giveSlot =>
    rw [silent (by simp)]
    exact congrArg (· + 1) (Slots.messages_put (h.pending_of_retiring now) _)
  | fall =>
    rw [silent (by simp)]
    exact Slots.messages_hangUp (h.channel_of_busy now (beq_self_eq_true slot)) _
  | _ =>
    rw [silent (by simp)]
    rfl

theorem WorkerMove.runs (moves : WorkerMove p slot wakes old new q) (h : Tokens p)
    (now : p.workers[thread]? = some ⟨slot, old⟩) :
    q.slots.messages Message.isRun + new.isExecuting.toNat = p.slots.messages Message.isRun := by
  cases moves with
  | execute got | stop got => exact Slots.messages_receive got _
  | giveSlot => exact Slots.messages_put (h.pending_of_retiring now) _
  | fall => exact Slots.messages_hangUp (h.channel_of_busy now (beq_self_eq_true slot)) _
  | _ => rfl

end Moves

theorem SweeperMove.dismissals {epoch : Nat} {old new : SweeperPhase}
    (moves : SweeperMove p epoch old new q) (h : Tokens p) :
    q.slots.messages Message.isStop =
      p.slots.messages Message.isStop + (p.entries (.sweeper thread) q).length := by
  cases moves with
  | @evict tick next dismissed kept slots opened current due late stopped =>
    have size := Roster.size_sweep due
    have told := messages_stopAll_isStop h (Roster.sublist_sweep due) stopped
    change slots.messages _ = _ + (List.replicate (p.idle.size - kept.size) Entry.evicted).length
    rw [List.length_replicate]
    omega
  | _ => simp [Pool.entries, note]

theorem SweeperMove.runs {epoch : Nat} {old new : SweeperPhase}
    (moves : SweeperMove p epoch old new q) :
    q.slots.messages Message.isRun = p.slots.messages Message.isRun := by
  cases moves with
  | evict opened current due late stopped => exact messages_stopAll rfl stopped
  | _ => rfl

theorem countP_entries_finish (p q : Pool α) (label : Label α) :
    (p.entries label q).countP Entry.isFinish = match label with
      | .finish _ _ => 1
      | _ => 0 := by
  cases label <;> simp only [entries] <;> try split
  all_goals first | rfl | simp [Entry.isFinish, List.countP_replicate]

/-- Workers leave as the ledger says. -/
theorem Move.departures (moves : p.Move label q) (h : Tokens p) :
    q.departures = p.departures + (p.entries label q).countP Entry.isDeparture := by
  cases moves with
  | @call call wakes old new r now moves =>
    have workers := moves.workersIn (·.phase.departs)
    have told := moves.dismissals h
    have leaves : Entry.drained.isDeparture = true := rfl
    rw [moves.entries, List.countP_replicate, if_pos leaves]
    unfold Pool.departures
    change _ + r.slots.messages _ = _
    omega
  | @thread call granted old new r now moves =>
    have workers : (r.setPhase call new).workersIn (·.phase.departs) = _ :=
      moves.workersIn (·.phase.departs)
    have stays : new.hired.any (·.phase.departs) = false := by cases moves <;> rfl
    have messages := moves.messages h now Message.isStop
    rw [stays] at workers
    change Pool.departures _ = _ + 0
    unfold Pool.departures
    change _ + r.slots.messages _ = _
    rw [workers, messages]
    rfl
  | @worker thread wakes slot old new r now moves =>
    have workers := moves.workersIn WorkerPhase.departs now
    have told := moves.dismissals (r := r.setWorker thread new) h now
    unfold Pool.departures
    change _ + r.slots.messages _ = _
    omega
  | @finish thread outcome slot task now =>
    have stays : outcome.aftermath.departs = false := by cases outcome <;> rfl
    have workers := workersIn_finish WorkerPhase.departs outcome now
    rw [stays] at workers
    exact congrArg (· + p.slots.messages Message.isStop) workers
  | @sweeper thread epoch old new r now moves =>
    have workers : (r.setSweeper thread new).workersIn _ = _ := moves.workersIn (·.phase.departs)
    have told : r.slots.messages Message.isStop =
        p.slots.messages Message.isStop + (p.entries (.sweeper thread) r).length := moves.dismissals h
    have all : (p.entries (.sweeper thread) r).countP Entry.isDeparture =
        (p.entries (.sweeper thread) r).length := by
      simp [entries, Entry.isDeparture, List.countP_replicate]
    change _ = p.departures + (p.entries (.sweeper thread) r).countP Entry.isDeparture
    unfold Pool.departures
    change _ + r.slots.messages _ = _
    omega
  | _ => rfl

/-- A task that has been handed over is on its way or has ended, as the ledger says. -/
theorem Move.tasks (moves : p.Move label q) (h : Tokens p) (accounted : Accounted p) :
    q.handed + p.underway =
      p.handed + q.underway + (p.entries label q).countP Entry.isFinish := by
  have others (none : label.caller? = none) : q.handed = p.handed :=
    moves.count_views_of_others none blind_delivers fun op => by cases op <;> rfl
  rw [countP_entries_finish]
  cases moves with
  | @call call wakes old new r now moves =>
    obtain ⟨c, made, rfl⟩ := Option.map_eq_some_iff.mp now
    have handed := moves.count_views made fun _ => blind_delivers
    have delivers := moves.delivers (accounted.admits made)
    have runs := moves.runs
    have executing : (r.setPhase call new).executing = p.executing := moves.workersIn _
    unfold Pool.handed underway
    change _ = _ + (_ + r.slots.messages _) + 0
    omega
  | @thread call granted old new r now moves =>
    have messages := moves.messages h now Message.isRun
    have executing : (r.setPhase call new).executing = _ := moves.workersIn (·.phase.isExecuting)
    have stays : new.hired.any (·.phase.isExecuting) = false := by cases moves <;> rfl
    obtain ⟨c, made, rfl⟩ := Option.map_eq_some_iff.mp now
    have handed := moves.count_views made Op.delivers
    rw [moves.delivers (accounted.admits made)] at handed
    rw [stays] at executing
    unfold Pool.handed underway
    change _ = _ + (_ + r.slots.messages _) + 0
    rw [executing, messages, Nat.add_right_cancel handed]
    rfl
  | @worker thread wakes slot old new r now moves =>
    have workers := moves.workersIn WorkerPhase.isExecuting now
    have before : old.isExecuting = false := by cases moves <;> rfl
    have runs := moves.runs h now
    rw [before, Bool.toNat_false] at workers
    rw [others rfl]
    unfold underway executing
    change _ = _ + ((r.setWorker thread new).workersIn _ + r.slots.messages _) + 0
    omega
  | @finish thread outcome slot task now =>
    have ends : outcome.aftermath.isExecuting = false := by cases outcome <;> rfl
    have workers := workersIn_finish WorkerPhase.isExecuting outcome now
    rw [ends] at workers
    change _ + 1 = p.executing + 0 at workers
    rw [others rfl]
    unfold underway
    change _ = _ + (Pool.workersIn _ _ + p.slots.messages _) + 1
    omega
  | @sweeper thread epoch old new r now moves =>
    have executing : (r.setSweeper thread new).executing = p.executing := moves.workersIn _
    rw [others rfl]
    unfold underway
    change _ = _ + (_ + r.slots.messages _) + 0
    rw [executing, moves.runs]
    rfl
  | _ => exact congrArg (· + p.underway) (others rfl)

end Pool
end WorkerPool
