import WorkerPool.Proofs.Pool.Delivery
import WorkerPool.Proofs.Pool.Door

/-!
# Releases and restarts

Each release and each restart has one turn, and what it returns agrees with the effect of that turn.
Turns with an effect alternate, so whichever calls come at once, one of them closes or opens the pool
and the others find it done. While a pool is closed nobody waits in its roster, its running workers do
not become more, and calls that look for a worker are turned away.
-/

namespace WorkerPool

/-- What a call of an operation in a phase has had in turns, each with its effect. -/
inductive Turned : Op → Phase → List (Op × Bool) → Prop
  | other {op : Op} {phase : Phase} (release : op ≠ .release) (restart : op ≠ .restart) :
      Turned op phase []
  | closing : Turned .release .closing []
  | wakingSubmitters {stopped : Nat} : Turned .release (.wakingSubmitters stopped) [(.release, true)]
  | wakingSweepers {stopped : Nat} : Turned .release (.wakingSweepers stopped) [(.release, true)]
  | released {effective : Bool} : Turned .release (.returned .done) [(.release, effective)]
  | reopening : Turned .restart .reopening []
  | reopened {epoch : Nat} : Turned .restart (.reopened epoch) [(.restart, true)]
  | restarted : Turned .restart (.returned .done) [(.restart, true)]
  | unattended : Turned .restart (.returned (.failed (.spawn refusalReason))) [(.restart, true)]
  | notReleased : Turned .restart (.returned (.failed .notReleased)) [(.restart, false)]

def turnsOf (ts : List Turn) (call : Nat) : List (Op × Bool) :=
  (ts.filter (·.call == call)).map fun t => (t.op, t.effective)

theorem turnsOf_append (ts us : List Turn) (call : Nat) :
    turnsOf (ts ++ us) call = turnsOf ts call ++ turnsOf us call := by
  simp [turnsOf]

theorem Op.turned_firstPhase (op : Op) : Turned op op.firstPhase [] := by
  cases op with
  | release => exact .closing
  | restart => exact .reopening
  | _ => exact .other nofun nofun

theorem Turned.of_closing {op : Op} {turns : List (Op × Bool)} (h : Turned op .closing turns)
    (admitted : op.admits .closing = true) : op = .release ∧ turns = [] := by
  cases h with
  | other release => exact absurd (beq_iff_eq.mp admitted) release
  | closing => exact ⟨rfl, rfl⟩

theorem Turned.of_reopening {op : Op} {turns : List (Op × Bool)} (h : Turned op .reopening turns)
    (admitted : op.admits .reopening = true) : op = .restart ∧ turns = [] := by
  cases h with
  | other _ restart => exact absurd (beq_iff_eq.mp admitted) restart
  | reopening => exact ⟨rfl, rfl⟩

def Notice.isReleased : Notice → Bool
  | .released _ => true
  | _ => false

/-- Whether a call has closed the pool and has not told the log yet. -/
def Phase.isReleasing : Phase → Bool
  | .wakingSubmitters _ | .wakingSweepers _ => true
  | _ => false

namespace Pool

variable {α : Type} {plan : Plan} {p q start : Pool α} {label : Label α} {labels : List (Label α)}
  {op : Op} {call mover thread slot : Nat} {wakes : Option Nat} {phase : Phase} {ts : List Turn}

theorem turnsOf_call (now : p.phase? call = some phase) (q : Pool α) :
    turnsOf (p.turn? q (.call call wakes)).toList call =
      (phase.turns?.map fun op => (op, p.closed != q.closed)).toList := by
  rw [turn?_call now]
  cases phase.turns? with
  | none => rfl
  | some op => simp [turnsOf]

theorem turnsOf_others (others : label.caller? ≠ some call) (q : Pool α) :
    turnsOf (p.turn? q label).toList call = [] := by
  cases label with
  | call mover wakes =>
    have different : mover ≠ call := fun same => others (congrArg some same)
    cases turn : (p.phase? mover).bind (·.turns?) <;> simp [turn?, turn, turnsOf, different]
  | _ => rfl

theorem turnsOf_absent (absent : p.phase? call = none) (q : Pool α) (label : Label α) :
    turnsOf (p.turn? q label).toList call = [] := by
  by_cases caller : label.caller? = some call
  · cases label with
    | call mover wakes =>
      cases caller
      simp [turn?, absent, turnsOf]
    | _ => rfl
  · exact turnsOf_others caller q

theorem CallMove.turned {old new : Phase} {turns : List (Op × Bool)}
    (moves : CallMove p call wakes old new q) (admitted : op.admits old = true)
    (h : Turned op old turns) :
    Turned op new (turns ++ (old.turns?.map fun op => (op, p.closed != q.closed)).toList) := by
  cases moves with
  | closeAgain =>
    obtain ⟨rfl, rfl⟩ := h.of_closing admitted
    exact .released
  | close opened =>
    obtain ⟨rfl, rfl⟩ := h.of_closing admitted
    rw [opened]
    exact .wakingSubmitters
  | reopen closed =>
    obtain ⟨rfl, rfl⟩ := h.of_reopening admitted
    rw [closed]
    exact .reopened
  | reopenAgain opened =>
    obtain ⟨rfl, rfl⟩ := h.of_reopening admitted
    rw [opened]
    exact .notReleased
  | wakeSubmitters =>
    cases h with
    | other release restart => exact .other release restart
    | wakingSubmitters => exact .wakingSweepers
  | wakeSweepers =>
    cases h with
    | other release restart => exact .other release restart
    | wakingSweepers => exact .released
  | _ =>
    cases h with
    | other release restart => exact .other release restart

theorem ThreadMove.turned {granted : Bool} {old new : Phase} {turns : List (Op × Bool)}
    (moves : ThreadMove p granted old new q) (h : Turned op old turns) : Turned op new turns := by
  cases moves with
  | attend =>
    cases h with
    | other release restart => exact .other release restart
    | reopened => exact .restarted
  | abandon =>
    cases h with
    | other release restart => exact .other release restart
    | reopened => exact .unattended
  | _ =>
    cases h with
    | other release restart => exact .other release restart

theorem PhaseMove.turned {old new : Phase} {turns : List (Op × Bool)}
    (moves : PhaseMove p call q label old new) (now : p.phase? call = some old)
    (admitted : op.admits old = true) (h : Turned op old turns) :
    Turned op new (turns ++ turnsOf (p.turn? q label).toList call) := by
  cases moves with
  | stay others =>
    rw [turnsOf_others others, List.append_nil]
    exact h
  | wake others =>
    rw [turnsOf_others others, List.append_nil]
    cases h with
    | other release restart => exact .other release restart
  | call moves result =>
    rw [turnsOf_call now, result]
    exact moves.turned admitted h
  | thread moves =>
    change Turned op new (turns ++ [])
    rw [List.append_nil]
    exact moves.turned h

/-- Whether the turns of a pool so far are those that its calls have had. -/
structure History (p : Pool α) (ts : List Turn) : Prop where
  made : ∀ call op phase, p.role? call = some (op, phase) → Turned op phase (turnsOf ts call)
  absent : ∀ call, p.role? call = none → turnsOf ts call = []

theorem Accounted.admits_role (h : Accounted p) (now : p.role? call = some (op, phase)) :
    op.admits phase = true := by
  obtain ⟨c, made, eq⟩ := Option.map_eq_some_iff.mp ((List.getElem?_map ..).symm.trans now)
  cases eq
  exact h.admits made

theorem History.move (h : History p ts) (accounted : Accounted p) (moves : p.Move label q) :
    History q (ts ++ (p.turn? q label).toList) := by
  constructor
  · intro call op phase now
    rw [turnsOf_append]
    cases before : p.role? call with
    | none =>
      obtain ⟨rfl, rfl⟩ := moves.firstPhase before now
      rw [h.absent call before]
      exact op.turned_firstPhase
    | some role =>
      obtain ⟨_, old⟩ := role
      obtain ⟨new, after, way⟩ := moves.role? before
      cases after.symm.trans now
      have here : p.phase? call = some old := by
        rw [phase?_eq, before]
        rfl
      exact way.turned here (accounted.admits_role before) (h.made call _ old before)
  · -- A call that is not there after the move was not there before, and has taken no step.
    intro call none
    have before : p.role? call = Option.none := by
      cases before : p.role? call with
      | none => rfl
      | some role =>
        obtain ⟨_, old⟩ := role
        obtain ⟨new, after, -⟩ := moves.role? before
        cases after.symm.trans none
    have absent : p.phase? call = Option.none := by
      rw [phase?_eq, before]
      rfl
    rw [turnsOf_append, h.absent call before, turnsOf_absent absent]
    rfl

theorem History.run (h : History p ts) (reached : Reachable plan p) (ran : p.run labels = some q) :
    History q (ts ++ p.turns labels) := by
  -- The turns so far grow along the row, as each step adds its own at their end.
  induction labels generalizing p ts with
  | nil =>
    cases ran
    rw [turns, List.append_nil]
    exact h
  | cons label labels ih =>
    obtain ⟨r, stepped, ran⟩ := Option.bind_eq_some_iff.mp ran
    have next := h.move reached.accounted (.of_step stepped)
    rw [turns_cons stepped, ← List.append_assoc]
    exact ih next (reached.leads (.of_step stepped)) ran

/-- How often the log has been told that the pool was released. -/
def announced (p : Pool α) : Nat := p.notices.countP Notice.isReleased

theorem blind_isReleasing : Blind fun _ => Phase.isReleasing := fun _ phase => by
  cases phase <;> rfl

/-- The effective releases among turns. -/
def closings (ts : List Turn) : Nat := (Door.effects ts).count .release

theorem closings_call (now : p.phase? call = some phase) (q : Pool α) :
    closings (p.turn? q (.call call wakes)).toList =
      (phase.turns? == some .release && p.closed != q.closed).toNat := by
  rw [turn?_call now]
  cases phase.turns? with
  | none => rfl
  | some op => cases op <;> cases p.closed <;> cases q.closed <;> rfl

theorem announced_note (p : Pool α) (n : Notice) :
    (n :: p.notices).countP Notice.isReleased = p.announced + n.isReleased.toNat :=
  countP_cons_toNat ..

theorem CallMove.announced {old new : Phase} (moves : CallMove p call wakes old new q)
    (now : p.phase? call = some old) :
    q.announced + new.isReleasing.toNat = p.announced + old.isReleasing.toNat +
      closings (p.turn? (q.setPhase call new) (.call call wakes)).toList := by
  rw [closings_call now]
  cases moves with
  | closeAgain =>
    rw [setPhase, bne_self_eq_false]
    rfl
  | close opened =>
    rw [opened]
    rfl
  | saturate => exact p.announced_note .saturated
  | reject => exact p.announced_note .rejected
  | passOn => exact p.announced_note (.refusedThread refusalReason)
  | @lose worker => exact p.announced_note (.lost worker)
  | @wakeSweepers stopped => exact p.announced_note (.released stopped)
  | _ => rfl

theorem panicAftermath_announced (p : Pool α) (worker : Nat) (payload : Payload) :
    (p.panicAftermath worker payload).announced = p.announced := by
  simp only [panicAftermath]
  split
  · exact p.announced_note (.panicked worker payload)
  · rfl
  · exact p.announced_note (.handlerPanicked worker)
  · rfl

theorem WorkerMove.announced {old new : WorkerPhase} (moves : WorkerMove p slot wakes old new q) :
    q.announced = p.announced := by
  cases moves with
  | @recover payload _ _ _ after | @fall payload _ _ _ after =>
    have same := panicAftermath_announced p slot payload
    rw [after] at same
    exact same
  | begin => exact p.announced_note (.workerStarted slot)
  | leave => exact p.announced_note (.workerStopped slot)
  | _ => rfl

theorem SweeperMove.announced {epoch : Nat} {old new : SweeperPhase}
    (moves : SweeperMove p epoch old new q) : q.announced = p.announced := by
  cases moves with
  | begin | stumble => exact p.announced_note (.sweeperStarted epoch)
  | leave => exact p.announced_note (.sweeperStopped epoch)
  | evict => exact p.announced_note (.evicted _ _)
  | _ => rfl

theorem CallMove.nobody {old new : Phase} (moves : CallMove p call wakes old new q)
    (h : p.closed = true → p.idle.parked = []) : q.closed = true → q.idle.parked = [] := by
  cases moves with
  | reuse opened => exact fun closed => absurd (opened.symm.trans closed) Bool.false_ne_true
  | close => exact fun _ => rfl
  | reopen => exact nofun
  | _ => exact h

/-- Nobody joins the roster of a closed pool, and closing it empties the roster. -/
theorem Move.nobody (moves : p.Move label q) (h : p.closed = true → p.idle.parked = []) :
    q.closed = true → q.idle.parked = [] := by
  cases moves with
  | call now moves => exact moves.nobody h
  | thread now moves => cases moves <;> exact h
  | worker now moves =>
    cases moves with
    | park opened => exact fun closed => absurd (opened.symm.trans closed) Bool.false_ne_true
    | _ => exact h
  | sweeper now moves =>
    cases moves with
    | evict opened => exact fun closed => absurd (opened.symm.trans closed) Bool.false_ne_true
    | _ => exact h
  | _ => exact h

theorem Reachable.nobody (reached : Reachable plan p) : p.closed = true → p.idle.parked = [] :=
  reached.induction (P := fun p => p.closed = true → p.idle.parked = []) (fun _ => nofun)
    fun _ h moves => moves.nobody h

/-- Only a look for a worker in an open pool raises the number of running workers. -/
theorem Move.running_le (moves : p.Move label q) (balanced : Balanced p) (closed : p.closed = true) :
    q.running ≤ p.running := by
  have lowered_le (positive : 0 < p.running) : lowered p.running ≤ p.running := by
    have := lowered_of_pos positive
    omega
  cases moves with
  | call now moves =>
    cases moves with
    | reserve opened => cases opened.symm.trans closed
    | giveBack => exact lowered_le (balanced.reserved_pos now rfl)
    | _ => exact Nat.le_refl _
  | thread now moves => cases moves <;> exact Nat.le_refl _
  | worker now moves =>
    cases moves with
    | lower => exact lowered_le (balanced.counted_pos now rfl)
    | _ => exact Nat.le_refl _
  | sweeper now moves => cases moves <;> exact Nat.le_refl _
  | _ => exact Nat.le_refl _

structure Ordered (p : Pool α) (ts : List Turn) : Prop where
  /-- The door goes through the same turns with the same effects. -/
  replays : Door.replay {} ts = some p.door
  /-- Effective turns alternate, a release first. -/
  alternates : ∀ i op, (Door.effects ts)[i]? = some op →
    op = if i % 2 = 0 then .release else .restart
  epoch : p.epoch = (Door.effects ts).count .restart
  /-- Of calls that want the same one after the other, one has its will at most, and does if the
  door is not yet as they want it. -/
  contested : ∀ before during after op, ts = before ++ during ++ after → during ≠ [] →
    (∀ t ∈ during, t.op = op) →
    ∃ d, Door.replay {} before = some d ∧ during.countP (·.effective) = (d.heeds op).toNat
  /-- A call has its turn before it returns, and returns what agrees with it. -/
  calls : ∀ call c, p.calls[call]? = some c → Turned c.op c.phase (turnsOf ts call)
  /-- Effective releases are announced, each of them once. -/
  announced : p.announced + p.callsIn Phase.isReleasing = (Door.effects ts).count .release

structure Lawful (p : Pool α) : Prop where
  /-- An effective release empties the roster and tells each worker in it to stop. -/
  close : ∀ call wakes, p.phase? call = some .closing → p.closed = false → ∃ slots,
    p.step (.call call wakes) = some
      (({ p with closed := true, slots }.setIdle {}).setPhase call (.wakingSubmitters p.idle.size)) ∧
    slots.free = p.slots.free ∧ ∀ slot, slots.channel slot =
      if slot ∈ p.idle.workers then { queue := [.stop] } else p.slots.channel slot
  closeAgain : ∀ call wakes, p.phase? call = some .closing → p.closed = true →
    p.step (.call call wakes) = some (p.setPhase call (.returned .done))
  reopen : ∀ call wakes, p.phase? call = some .reopening → p.closed = true →
    p.step (.call call wakes) = some
      ({ p with closed := false, epoch := p.epoch + 1 }.setPhase call (.reopened (p.epoch + 1)))
  reopenAgain : ∀ call wakes, p.phase? call = some .reopening → p.closed = false →
    p.step (.call call wakes) = some (p.setPhase call (.returned (.failed .notReleased)))

theorem Reachable.lawful (reached : Reachable plan p) : Lawful p where
  close := by
    intro call wakes now opened
    obtain ⟨slots, stopped, free, channels⟩ := reached.tokens.exists_stopAll (List.Sublist.refl _)
    have size : p.idle.workers.length = p.idle.size := List.length_map ..
    refine ⟨slots, ?_, free, channels⟩
    rw [step_call now, callStep, close, opened]
    simp only [Roster.drain, stopped, size]
    rfl
  closeAgain := by
    intro call wakes now closed
    rw [step_call now, callStep, close, closed]
    rfl
  reopen := by
    intro call wakes now closed
    rw [step_call now, callStep, reopen, closed]
    rfl
  reopenAgain := by
    intro call wakes now opened
    rw [step_call now, callStep, reopen, opened]
    rfl

end Pool
end WorkerPool
