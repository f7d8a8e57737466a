import WorkerPool.Proofs.Pool.Role

/-!
# The door of a pool

A release and a restart take effect in one step each, under the lock of the pool. To these steps, the
turns of the calls, a pool is a door: it is closed or open, and it counts how often it has been opened
again. `Door` is that object by itself, `turns` are the turns of a row of steps in their order, and
`replay_turns` says that the pool has gone through them as the door would have done.
-/

namespace WorkerPool

structure Door where
  closed : Bool := false
  epoch : Nat := 0
  deriving DecidableEq, Repr

/-- The step in which a call releases or restarts the pool, and whether that has had an effect. -/
structure Turn where
  call : Nat
  op : Op
  effective : Bool
  deriving DecidableEq, Repr

namespace Door

variable {d e : Door} {op : Op} {ts before after : List Turn}

/-- Whether an operation has an effect. -/
def heeds (d : Door) : Op → Bool
  | .release => !d.closed
  | .restart => d.closed
  | _ => false

/-- The door after an operation. -/
def turn (d : Door) : Op → Door
  | .release => { d with closed := true }
  | .restart => { closed := false, epoch := d.epoch + d.closed.toNat }
  | _ => d

/-- The door after some turns, if each of them has the effect that it is said to have. -/
def replay (d : Door) : List Turn → Option Door
  | [] => some d
  | t :: rest => if t.effective = d.heeds t.op then (d.turn t.op).replay rest else none

/-- The operations that have had an effect, in their order. -/
def effects (ts : List Turn) : List Op := (ts.filter (·.effective)).map (·.op)

theorem epoch_turn (d : Door) (op : Op) :
    (d.turn op).epoch = d.epoch + (d.heeds op && op == .restart).toNat := by
  obtain ⟨closed, epoch⟩ := d
  cases op <;> cases closed <;> rfl

theorem replay_cons {t : Turn} (h : d.replay (t :: ts) = some e) :
    t.effective = d.heeds t.op ∧ (d.turn t.op).replay ts = some e := by
  unfold replay at h
  split at h
  · rename_i agrees
    exact ⟨agrees, h⟩
  · cases h

theorem replay_append (d : Door) (before after : List Turn) :
    d.replay (before ++ after) = (d.replay before).bind fun e => e.replay after := by
  induction before generalizing d with
  | nil => rfl
  | cons t before ih =>
    rw [List.cons_append, replay, replay]
    split
    · exact ih (d.turn t.op)
    · rfl

theorem effects_cons (t : Turn) (ts : List Turn) :
    effects (t :: ts) = if t.effective then t.op :: effects ts else effects ts := by
  unfold effects
  rw [List.filter_cons]
  split <;> rfl

theorem epoch_eq (h : d.replay ts = some e) : e.epoch = d.epoch + (effects ts).count .restart := by
  induction ts generalizing d with
  | nil =>
    cases h
    rfl
  | cons t ts ih =>
    obtain ⟨agrees, h⟩ := replay_cons h
    rw [ih h, epoch_turn, effects_cons, agrees]
    cases d.heeds t.op with
    | false => rfl
    | true =>
      rw [if_pos rfl, List.count_cons]
      cases t.op == .restart with
      | false => rfl
      | true => exact Nat.add_right_comm ..

theorem epoch_le (h : d.replay ts = some e) : d.epoch ≤ e.epoch := by
  rw [epoch_eq h]
  exact Nat.le_add_right ..

/-- A closed door does not open without being counted. -/
theorem closed_of_epoch_eq (h : d.replay ts = some e) (closed : d.closed = true)
    (same : e.epoch = d.epoch) : e.closed = true := by
  induction ts generalizing d with
  | nil =>
    cases h
    exact closed
  | cons t ts ih =>
    obtain ⟨-, h⟩ := replay_cons h
    have later := epoch_le h
    cases op : t.op with
    | restart =>
      rw [op, epoch_turn, heeds, closed] at later
      have more : d.epoch + 1 ≤ e.epoch := later
      omega
    | release =>
      rw [op] at h
      exact ih h rfl same
    | _ =>
      rw [op] at h
      exact ih h closed same

end Door

/-- What a call in a phase does in its next step, if that is a turn. -/
def Phase.turns? : Phase → Option Op
  | .closing => some .release
  | .reopening => some .restart
  | _ => none

namespace Pool

variable {α : Type} {p q : Pool α} {label : Label α} {labels : List (Label α)} {op : Op}
  {call mover thread slot : Nat} {wakes : Option Nat} {phase : Phase}

def door (p : Pool α) : Door := { closed := p.closed, epoch := p.epoch }

def turn? (p q : Pool α) : Label α → Option Turn
  | .call call _ => ((p.phase? call).bind (·.turns?)).map fun op =>
      { call, op, effective := p.closed != q.closed }
  | _ => none

/-- The turns in a row of steps. -/
def turns (p : Pool α) : List (Label α) → List Turn
  | [] => []
  | label :: rest => (p.step label).elim [] fun q => (p.turn? q label).toList ++ q.turns rest

theorem turn?_call (now : p.phase? call = some phase) (q : Pool α) :
    p.turn? q (.call call wakes) =
      phase.turns?.map fun op => { call, op, effective := p.closed != q.closed } := by
  rw [turn?, now]
  rfl

theorem turns_cons {rest : List (Label α)} (h : p.step label = some q) :
    p.turns (label :: rest) = (p.turn? q label).toList ++ q.turns rest := by
  rw [turns, h]
  rfl

theorem CallMove.door {old new : Phase} (moves : CallMove p call wakes old new q)
    (now : p.phase? call = some old) :
    p.door.replay (p.turn? (q.setPhase call new) (.call call wakes)).toList = some q.door := by
  rw [turn?_call now]
  cases moves with
  | closeAgain closed | reopen closed =>
    simp [Phase.turns?, Door.replay, Door.heeds, Door.turn, Pool.door, setPhase, closed]
  | close opened | reopenAgain opened =>
    simp [Phase.turns?, Door.replay, Door.heeds, Door.turn, Pool.door, setPhase, opened, setIdle]
  | _ => rfl

theorem WorkerMove.door {old new : WorkerPhase} (moves : WorkerMove p slot wakes old new q) :
    q.door = p.door := by
  cases moves <;> rfl

/-- A step that is a turn does to a pool what it does to the door, and any other step does nothing
to the door. -/
theorem Move.door (moves : p.Move label q) : p.door.replay (p.turn? q label).toList = some q.door := by
  cases moves with
  | call now moves => exact moves.door now
  | thread now moves => cases moves <;> rfl
  | worker now moves => exact congrArg some moves.door.symm
  | sweeper now moves => cases moves <;> rfl
  | _ => rfl

theorem replay_turns (ran : p.run labels = some q) : p.door.replay (p.turns labels) = some q.door := by
  induction labels generalizing p with
  | nil =>
    cases ran
    rfl
  | cons label labels ih =>
    obtain ⟨r, stepped, ran⟩ := Option.bind_eq_some_iff.mp ran
    rw [turns_cons stepped, Door.replay_append, (Move.of_step stepped).door]
    exact ih ran

theorem Leads.epoch_le (led : p.Leads q) : p.epoch ≤ q.epoch := by
  obtain ⟨labels, ran⟩ := led
  exact Door.epoch_le (replay_turns ran)

/-- A closed pool stays closed until it is opened once more. -/
theorem Leads.closed (led : p.Leads q) (closed : p.closed = true) (same : q.epoch = p.epoch) :
    q.closed = true := by
  obtain ⟨labels, ran⟩ := led
  exact Door.closed_of_epoch_eq (replay_turns ran) closed same

end Pool
end WorkerPool
