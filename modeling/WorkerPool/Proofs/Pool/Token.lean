import WorkerPool.Proofs.Pool.Census
import WorkerPool.Proofs.Pool.Slots

/-!
# One token for each worker

Whoever may act on a worker has its token: the roster, a call that has the worker to itself, the
message in its channel, or the thread that has taken a message out. `Tokens` says that there is one
for each worker and none for other slots, and that a slot is unused or has one worker. All else
about channels follows: where the token is not in the channel, the channel is empty.
-/

namespace WorkerPool

/-- Whether a call has the worker of a slot in its hands. -/
def Phase.holds (slot : Nat) : Phase → Bool
  | .starting s | .started s | .publishing s _ | .holding s => s == slot
  | _ => false

def Phase.awaits (slot : Nat) : Phase → Bool
  | .starting s => s == slot
  | _ => false

/-- Whether a worker has a message in hand: it executes a task, or is about to wait or to leave. -/
def WorkerPhase.isBusy : WorkerPhase → Bool
  | .executing _ | .unwound _ | .parking | .retiring => true
  | _ => false

/-- Whether a worker has its slot and can still give it back. -/
def WorkerPhase.serves : WorkerPhase → Bool
  | .lowering | .lowered | .publishing _ | .leaving | .gone | .fallen => false
  | _ => true

def Worker.busyOn (slot : Nat) (w : Worker) : Bool := w.phase.isBusy && w.slot == slot

def Worker.servesOn (slot : Nat) (w : Worker) : Bool := w.phase.serves && w.slot == slot

namespace Pool

variable {α : Type} {plan : Plan} {p q : Pool α} {call thread slot : Nat} {wakes : Option Nat}

/-- Number of workers on a slot, from its being taken until it is given back or lost. -/
def manned (p : Pool α) (slot : Nat) : Nat := p.tally (Phase.awaits slot) (Worker.servesOn slot)

/-- Number of calls and threads that have the token of a slot. -/
def hands (p : Pool α) (slot : Nat) : Nat := p.tally (Phase.holds slot) (Worker.busyOn slot)

/-- Number of tokens of a slot that nobody has in hand: in the roster and in the channel. -/
def stock (p : Pool α) (slot : Nat) : Nat := p.idle.workers.count slot + p.slots.pending slot

structure Tokens (p : Pool α) : Prop where
  token : ∀ slot, p.stock slot + p.hands slot = p.manned slot
  place : ∀ slot, p.slots.unused slot + p.manned slot = 1

theorem blind_holds (slot : Nat) : Blind fun _ => Phase.holds slot := fun _ phase => by
  cases phase <;> rfl

theorem blind_awaits (slot : Nat) : Blind fun _ => Phase.awaits slot := fun _ phase => by
  cases phase <;> rfl

theorem Tokens.fresh : Tokens (fresh α plan) := ⟨fun _ => rfl, fun _ => rfl⟩

/-- A channel whose worker's token is elsewhere is as good as new. -/
theorem Tokens.channel_eq (h : Tokens p) (elsewhere : 0 < p.idle.workers.count slot + p.hands slot) :
    p.slots.channel slot = {} := by
  have token := h.token slot
  have place := h.place slot
  unfold stock at token
  have empty : p.slots.pending slot = 0 := by omega
  have used : p.slots.unused slot = 0 := by omega
  cases c : p.slots.channel slot with
  | mk queue connected =>
    rw [Slots.pending, c] at empty
    rw [Slots.unused, c] at used
    obtain rfl := List.length_eq_zero_iff.mp empty
    cases connected with
    | true => rfl
    | false => simp at used

theorem Tokens.channel_of_idle (h : Tokens p) (idle : slot ∈ p.idle.workers) :
    p.slots.channel slot = {} := by
  have := List.count_pos_iff.mpr idle
  exact h.channel_eq (by omega)

theorem Tokens.channel_of_holds {phase : Phase} (h : Tokens p) (now : p.phase? call = some phase)
    (holds : phase.holds slot = true) : p.slots.channel slot = {} := by
  have := callsIn_pos now holds
  exact h.channel_eq (by unfold hands tally; omega)

/-- A call that has a worker to itself can hand its task over. -/
theorem Tokens.send_ne_refused {slots : Slots (Message Nat)} (h : Tokens p)
    (now : p.phase? call = some (.holding slot)) :
    p.slots.send slot (.run call) ≠ (.refused, slots) := by
  intro gone
  have gone := Slots.send_eq_refused gone
  rw [h.channel_of_holds now (beq_self_eq_true slot)] at gone
  cases gone

theorem Tokens.channel_of_busy {w : Worker} (h : Tokens p) (now : p.workers[thread]? = some w)
    (busy : w.busyOn slot = true) : p.slots.channel slot = {} := by
  have := workersIn_pos now busy
  exact h.channel_eq (by unfold hands tally; omega)

/-- Nothing is thrown away when a slot is given back. -/
theorem Tokens.pending_of_retiring (h : Tokens p) (now : p.workers[thread]? = some ⟨slot, .retiring⟩) :
    p.slots.pending slot = 0 := by
  have busy : Worker.busyOn slot ⟨slot, .retiring⟩ = true := beq_self_eq_true slot
  rw [Slots.pending, h.channel_of_busy now busy]
  rfl

theorem Tokens.idle_nodup (h : Tokens p) : p.idle.workers.Nodup := by
  apply List.nodup_iff_count.mpr
  intro slot
  have token := h.token slot
  have place := h.place slot
  unfold stock at token
  omega

theorem Tokens.stopAll_spec {workers : List Nat} {told : Slots (Message Nat)} (h : Tokens p)
    (some : workers.Sublist p.idle.workers) (stopped : stopAll p.slots workers = .some told)
    (slot : Nat) :
    told.unused slot = p.slots.unused slot ∧
      told.pending slot = p.slots.pending slot + workers.count slot :=
  Pool.stopAll_spec stopped (h.idle_nodup.sublist some)
    (fun _ member => h.channel_of_idle (some.subset member)) slot

section Moves

variable {old new : Phase}

/-- The token that a call gains or loses is lost or gained by what is shared, but for a call that
takes a slot, which comes with a new token. -/
theorem CallMove.stock (moves : CallMove p call wakes old new q) (h : Tokens p)
    (now : p.phase? call = some old) (slot : Nat) :
    q.stock slot + (new.holds slot).toNat + (old.awaits slot).toNat =
      p.stock slot + (old.holds slot).toNat + (new.awaits slot).toNat := by
  cases moves with
  | @reuse since? worker idle opened found =>
    have count := Roster.count_pop? found slot
    change idle.workers.count slot + p.slots.pending slot + (worker == slot).toNat + 0 =
      p.stock slot + 0 + 0
    unfold Pool.stock
    omega
  | take =>
    have pending : p.slots.take.2.pending slot = p.slots.pending slot := Slots.pending_take rfl slot
    change p.idle.workers.count slot + p.slots.take.2.pending slot +
      (p.slots.take.1 == slot).toNat + 0 = p.stock slot + 0 + (p.slots.take.1 == slot).toNat
    unfold Pool.stock
    omega
  | @hand worker slots sent =>
    have pending := (Slots.send_spec sent slot).2
    change p.idle.workers.count slot + slots.pending slot + 0 + 0 =
      p.stock slot + (worker == slot).toNat + 0
    unfold Pool.stock
    omega
  | lose gone => exact (h.send_ne_refused now gone).elim
  | @close slots opened stopped =>
    have pending := (h.stopAll_spec (List.Sublist.refl _) stopped slot).2
    change 0 + slots.pending slot + 0 + 0 = p.stock slot + 0 + 0
    unfold Pool.stock
    omega
  | _ => rfl

theorem CallMove.unused (moves : CallMove p call wakes old new q) (h : Tokens p) (slot : Nat) :
    q.slots.unused slot + (new.awaits slot).toNat =
      p.slots.unused slot + (old.awaits slot).toNat := by
  cases moves with
  | take => exact Slots.unused_take rfl slot
  | hand sent => exact congrArg (· + 0) (Slots.send_spec sent slot).1
  | close opened stopped =>
    exact congrArg (· + 0) (h.stopAll_spec (List.Sublist.refl _) stopped slot).1
  | _ => rfl

theorem Tokens.callMove (h : Tokens p) (now : p.phase? call = some old)
    (moves : CallMove p call wakes old new q) : Tokens (q.setPhase call new) := by
  constructor
  · intro slot
    have token := h.token slot
    have stock := moves.stock h now slot
    have hands := moves.tally (Worker.busyOn slot) now fun _ => blind_holds slot
    have manned := moves.tally (Worker.servesOn slot) now fun _ => blind_awaits slot
    change q.stock slot + _ = _
    unfold Pool.hands Pool.manned at *
    omega
  · intro slot
    have place := h.place slot
    have unused := moves.unused h slot
    have manned := moves.tally (Worker.servesOn slot) now fun _ => blind_awaits slot
    change q.slots.unused slot + _ = _
    unfold Pool.manned at *
    omega

theorem ThreadMove.stock {granted : Bool} (moves : ThreadMove p granted old new q) (h : Tokens p)
    (now : p.phase? call = some old) (slot : Nat) :
    q.stock slot + (new.holds slot).toNat + (new.hired.any (Worker.busyOn slot)).toNat +
        (old.awaits slot).toNat =
      p.stock slot + (old.holds slot).toNat + (new.awaits slot).toNat +
        (new.hired.any (Worker.servesOn slot)).toNat := by
  cases moves with
  | @refuse other =>
    have empty := h.channel_of_holds now (beq_self_eq_true other)
    have pending := (Slots.hangUp_spec empty slot).2
    change p.idle.workers.count slot + (p.slots.hangUp other).pending slot + 0 + 0 +
      (other == slot).toNat = p.stock slot + (other == slot).toNat + 0 + 0
    unfold Pool.stock
    omega
  | _ => rfl

theorem ThreadMove.unused {granted : Bool} (moves : ThreadMove p granted old new q) (h : Tokens p)
    (now : p.phase? call = some old) (slot : Nat) :
    q.slots.unused slot + (new.awaits slot).toNat + (new.hired.any (Worker.servesOn slot)).toNat =
      p.slots.unused slot + (old.awaits slot).toNat := by
  cases moves with
  | @refuse other =>
    have empty := h.channel_of_holds now (beq_self_eq_true other)
    exact (Slots.hangUp_spec empty slot).1
  | _ => rfl

theorem Tokens.threadMove {granted : Bool} (h : Tokens p) (now : p.phase? call = some old)
    (moves : ThreadMove p granted old new q) : Tokens (q.setPhase call new) := by
  constructor
  · intro slot
    have token := h.token slot
    have stock := moves.stock h now slot
    have hands := moves.tally (Phase.holds slot) (Worker.busyOn slot) now
    have manned := moves.tally (Phase.awaits slot) (Worker.servesOn slot) now
    change q.stock slot + _ = _
    unfold Pool.hands Pool.manned at *
    omega
  · intro slot
    have place := h.place slot
    have unused := moves.unused h now slot
    have manned := moves.tally (Phase.awaits slot) (Worker.servesOn slot) now
    change q.slots.unused slot + _ = _
    unfold Pool.manned at *
    omega

end Moves

section Moves

variable {old new : WorkerPhase}

theorem WorkerMove.stock (moves : WorkerMove p slot wakes old new q) (h : Tokens p)
    (now : p.workers[thread]? = some ⟨slot, old⟩) (other : Nat) :
    q.stock other + (Worker.busyOn other ⟨slot, new⟩).toNat + (Worker.servesOn other ⟨slot, old⟩).toNat =
      p.stock other + (Worker.busyOn other ⟨slot, old⟩).toNat +
        (Worker.servesOn other ⟨slot, new⟩).toNat := by
  cases moves with
  | @execute _ slots got | @stop slots got =>
    have pending := (Slots.receive_spec got other).2
    change p.idle.workers.count other + slots.pending other + (slot == other).toNat +
      (slot == other).toNat = p.stock other + 0 + (slot == other).toNat
    unfold Pool.stock
    omega
  | park opened woke =>
    have count := Roster.count_push p.idle slot p.clock other
    change (p.idle.push slot p.clock).workers.count other + p.slots.pending other + 0 +
      (slot == other).toNat = p.stock other + (slot == other).toNat + (slot == other).toNat
    unfold Pool.stock
    omega
  | fall =>
    have empty := h.channel_of_busy now (beq_self_eq_true slot)
    have pending := (Slots.hangUp_spec empty other).2
    change p.idle.workers.count other + (p.slots.hangUp slot).pending other + 0 +
      (slot == other).toNat = p.stock other + (slot == other).toNat + 0
    unfold Pool.stock
    omega
  | giveSlot =>
    have empty := h.pending_of_retiring now
    have pending := (Slots.put_spec empty other).2
    change p.idle.workers.count other + (p.slots.put slot).pending other + 0 + (slot == other).toNat =
      p.stock other + (slot == other).toNat + 0
    unfold Pool.stock
    omega
  | _ => rfl

theorem WorkerMove.unused (moves : WorkerMove p slot wakes old new q) (h : Tokens p)
    (now : p.workers[thread]? = some ⟨slot, old⟩) (other : Nat) :
    q.slots.unused other + (Worker.servesOn other ⟨slot, new⟩).toNat =
      p.slots.unused other + (Worker.servesOn other ⟨slot, old⟩).toNat := by
  cases moves with
  | execute got | stop got => exact congrArg (· + (slot == other).toNat) (Slots.receive_spec got other).1
  | giveSlot =>
    have empty := h.pending_of_retiring now
    exact (Slots.put_spec empty other).1
  | fall =>
    have empty := h.channel_of_busy now (beq_self_eq_true slot)
    exact (Slots.hangUp_spec empty other).1
  | _ => rfl

theorem Tokens.workerMove (h : Tokens p) (now : p.workers[thread]? = some ⟨slot, old⟩)
    (moves : WorkerMove p slot wakes old new q) : Tokens (q.setWorker thread new) := by
  constructor
  · intro other
    have token := h.token other
    have stock := moves.stock h now other
    have hands := moves.tally (Worker.busyOn other) now fun _ => blind_holds other
    have manned := moves.tally (Worker.servesOn other) now fun _ => blind_awaits other
    change q.stock other + _ = _
    unfold Pool.hands Pool.manned at *
    omega
  · intro other
    have place := h.place other
    have unused := moves.unused h now other
    have manned := moves.tally (Worker.servesOn other) now fun _ => blind_awaits other
    change q.slots.unused other + _ = _
    unfold Pool.manned at *
    omega

end Moves

section Moves

variable {epoch : Nat} {old new : SweeperPhase}

theorem SweeperMove.stock (moves : SweeperMove p epoch old new q) (h : Tokens p) (slot : Nat) :
    q.stock slot = p.stock slot ∧ q.slots.unused slot = p.slots.unused slot := by
  cases moves with
  | @evict tick next dismissed kept slots opened current due late stopped =>
    have count := Roster.count_sweep due slot
    have told := h.stopAll_spec (Roster.sublist_sweep due) stopped slot
    refine ⟨?_, told.1⟩
    change kept.workers.count slot + slots.pending slot = p.stock slot
    unfold Pool.stock
    omega
  | _ => exact ⟨rfl, rfl⟩

end Moves

theorem Tokens.sweeperMove {epoch : Nat} {old new : SweeperPhase} (h : Tokens p)
    (moves : SweeperMove p epoch old new q) : Tokens (q.setSweeper thread new) := by
  constructor
  · intro slot
    rw [hands, manned, moves.tally, moves.tally]
    exact (congrArg (· + p.hands slot) (moves.stock h slot).1).trans (h.token slot)
  · intro slot
    rw [manned, moves.tally]
    exact (congrArg (· + p.manned slot) (moves.stock h slot).2).trans (h.place slot)

theorem Tokens.invoke (h : Tokens p) (op : Op) :
    Tokens ({ p with calls := p.calls ++ [{ op, phase := op.firstPhase }] } : Pool α) := by
  have holds (slot : Nat) : op.firstPhase.holds slot = false := by cases op <;> rfl
  have awaits (slot : Nat) : op.firstPhase.awaits slot = false := by cases op <;> rfl
  constructor
  · intro slot
    rw [hands, manned, tally_invoke, tally_invoke, holds, awaits]
    exact h.token slot
  · intro slot
    rw [manned, tally_invoke, awaits]
    exact h.place slot

theorem Tokens.stir (h : Tokens p) (call : Nat) : Tokens (p.rouse call) := by
  constructor
  · intro slot
    rw [hands, manned, tally_rouse (blind_holds slot), tally_rouse (blind_awaits slot)]
    exact h.token slot
  · intro slot
    rw [manned, tally_rouse (blind_awaits slot)]
    exact h.place slot

/-- A worker whose task has ended keeps its token. -/
theorem Tokens.finish {task : Nat} (h : Tokens p)
    (now : p.workers[thread]? = some ⟨slot, .executing task⟩) (outcome : Outcome α) :
    Tokens ((p.setCell task outcome.cell).setWorker thread outcome.aftermath) := by
  have busy : outcome.aftermath.isBusy = true := by cases outcome <;> rfl
  have alive : outcome.aftermath.serves = true := by cases outcome <;> rfl
  have hands (other : Nat) := tally_finish (Phase.holds other) (Worker.busyOn other) outcome now
  have manned (other : Nat) := tally_finish (Phase.awaits other) (Worker.servesOn other) outcome now
  simp only [Worker.busyOn, Worker.servesOn, busy, alive] at hands manned
  constructor
  · intro other
    rw [Pool.hands, Pool.manned, Nat.add_right_cancel (hands other), Nat.add_right_cancel (manned other)]
    exact h.token other
  · intro other
    rw [Pool.manned, Nat.add_right_cancel (manned other)]
    exact h.place other

theorem Tokens.move {label : Label α} (h : Tokens p) (moves : p.Move label q) : Tokens q := by
  cases moves with
  | pass | stirSweeper => exact ⟨h.token, h.place⟩
  | invoke => exact h.invoke _
  | call now moves => exact h.callMove now moves
  | thread now moves => exact h.threadMove now moves
  | stir => exact h.stir _
  | worker now moves => exact h.workerMove now moves
  | finish now => exact h.finish now _
  | sweeper now moves => exact h.sweeperMove moves

theorem Reachable.tokens (reached : Reachable plan p) : Tokens p :=
  reached.induction (P := Tokens) (fun _ => .fresh) fun _ h moves => h.move moves

end Pool
end WorkerPool
