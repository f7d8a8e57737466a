import WorkerPool.Proofs.Pool.Conservation
import WorkerPool.Proofs.Pool.Ending
import WorkerPool.Proofs.Pool.Rejection

/-!
# Pools for one worker

With room for one worker only, a task that has been handed over takes up the whole pool until it has
ended: nobody waits in the roster, and there is no room for another worker. So a call that comes after
the task has been accepted gets no worker before the task has ended, whichever thread that worker has.
-/

namespace WorkerPool

/-- Whether a call has not been given a worker and has none reserved. -/
inductive Phase.Bare : Phase → Prop
  | acquiring {since? : Option Nat} : Phase.Bare (.acquiring since?)
  | waiting {since : Nat} : Phase.Bare (.waiting since)
  | turnedAway : Phase.Bare .turnedAway
  | rejected : Phase.Bare (.returned (.failed .closed))

theorem Phase.Bare.delivers {phase : Phase} (h : phase.Bare) (op : Op) :
    op.delivers phase = false := by
  cases h <;> rfl

theorem Op.bare_firstPhase {op : Op} (brings : op.isTask = true) : op.firstPhase.Bare := by
  cases op <;> first | exact .acquiring | cases brings

namespace Pool

variable {α : Type} {plan : Plan} {p q r : Pool α} {label : Label α} {first later slot task : Nat}
  {phase : Phase}

theorem workersIn_serves_le (p : Pool α) : p.workersIn (·.phase.serves) ≤ p.counted := by
  apply workersIn_mono
  intro w
  cases w.phase <;> simp [WorkerPhase.serves, WorkerPhase.counts]

/-- Workers on different slots are different workers. -/
theorem workersIn_servesOn_add_le {other : Nat} (p : Pool α) (different : slot ≠ other) :
    p.workersIn (Worker.servesOn slot) + p.workersIn (Worker.servesOn other) ≤ p.counted := by
  have parts : (p.workersIn fun w => Worker.servesOn slot w || Worker.servesOn other w) =
      p.workersIn (Worker.servesOn slot) + p.workersIn (Worker.servesOn other) := by
    apply workersIn_add
    intro w
    by_cases here : w.slot = slot
    · cases live : w.phase.serves <;> simp [Worker.servesOn, here, different, live]
    · cases live : w.phase.serves <;> simp [Worker.servesOn, beq_false_of_ne here, live]
  rw [← parts]
  apply Nat.le_trans _ p.workersIn_serves_le
  apply workersIn_mono
  intro w either
  rcases Bool.or_eq_true_iff.mp either with here | there
  · exact (Bool.and_eq_true_iff.mp here).1
  · exact (Bool.and_eq_true_iff.mp there).1

theorem executing_le_counted (p : Pool α) : p.executing ≤ p.counted := by
  apply workersIn_mono
  intro w executing
  cases w with
  | mk slot phase => cases phase <;> first | rfl | cases executing

structure Occupied (p : Pool α) (slot : Nat) : Prop where
  thread : 0 < p.workersIn (Worker.servesOn slot)
  absent : slot ∉ p.idle.workers

theorem Tokens.thread_of_idle (h : Tokens p) (idle : slot ∈ p.idle.workers) :
    0 < p.workersIn (Worker.servesOn slot) := by
  have fewer := p.listeners_le slot
  rw [h.listeners_of_idle idle] at fewer
  exact fewer

theorem Queued.occupied (h : Queued p task) (tokens : Tokens p) : ∃ slot, Occupied p slot := by
  obtain ⟨slot, live, listens, queue, -⟩ := h.channel
  have thread := p.listeners_le slot
  rw [listens] at thread
  refine ⟨slot, thread, ?_⟩
  intro idle
  have empty := tokens.channel_of_idle idle
  rw [empty] at queue
  cases queue

theorem Underway.occupied (h : Underway p task) (tokens : Tokens p) : ∃ slot, Occupied p slot := by
  have some : 0 < p.executions task := by
    rw [h.executions]
    exact Nat.one_pos
  obtain ⟨⟨slot, phase⟩, member, executes⟩ := List.countP_pos_iff.mp some
  have busy : phase.isBusy = true := by cases phase <;> first | rfl | cases executes
  have live : phase.serves = true := by cases phase <;> first | rfl | cases executes
  refine ⟨slot, List.countP_pos_iff.mpr ⟨_, member, ?_⟩, tokens.not_idle_of_busy member busy⟩
  simp [Worker.servesOn, live]

/-- One worker that is taken leaves none to be had. -/
theorem Occupied.full (h : Occupied p slot) (reached : Reachable plan p) (single : plan.capacity = 1) :
    p.idle.pop? = none ∧ p.plan.capacity ≤ p.running := by
  have tokens := reached.tokens
  have balanced := reached.balanced
  have accounts : p.running = p.reservations + p.counted := balanced.accounts
  have bounded := balanced.bounded
  rw [reached.plan_eq, single] at bounded ⊢
  have thread := h.thread
  have counted : p.workersIn (Worker.servesOn slot) ≤ p.counted := by
    apply Nat.le_trans _ p.workersIn_serves_le
    apply workersIn_mono
    intro w live
    exact (Bool.and_eq_true_iff.mp live).1
  refine ⟨?_, by omega⟩
  apply (Roster.pop?_eq_none_iff p.idle).mpr
  apply List.eq_nil_iff_forall_not_mem.mpr
  intro parked member
  have idle : parked.worker ∈ p.idle.workers := List.mem_map_of_mem member
  have different : slot ≠ parked.worker := fun same => h.absent (same ▸ idle)
  have waits := tokens.thread_of_idle idle
  -- The worker in the roster is a second one then, and there is room for one only.
  have two := p.workersIn_servesOn_add_le different
  omega

/-- As long as the one worker is taken, a call without a worker stays without. -/
theorem PhaseMove.bare {old new : Phase} (moves : PhaseMove p later q label old new)
    (nobody : p.idle.pop? = none) (full : p.plan.capacity ≤ p.running) (h : old.Bare) : new.Bare := by
  cases moves with
  | stay => exact h
  | wake => exact .acquiring
  | call moves =>
    cases h with
    | acquiring =>
      cases moves with
      | turnAway => exact .turnedAway
      | reuse opened found => cases nobody.symm.trans found
      | reserve opened _ room => omega
      | wait => exact .waiting
      | saturate => exact .waiting
    | turnedAway =>
      cases moves
      exact .rejected
    | waiting | rejected => cases moves
  | thread moves => cases h <;> cases moves

/-- The later of two calls has no worker before the task of the first is over. -/
def Yields (p : Pool α) (first later : Nat) : Prop :=
  Finished p first ∨ ∃ phase, p.phase? later = some phase ∧ phase.Bare

/-- As long as the task of the first call is not over, the later call gets no worker. -/
theorem Yields.held (h : Yields p first later) (reached : Reachable plan p) (single : plan.capacity = 1)
    (moves : p.Move label q) (accepted : p.delivered first = 1) :
    Finished p first ∨ ∃ phase, q.phase? later = some phase ∧ phase.Bare := by
  rcases h with finished | ⟨phase, now, bare⟩
  · exact .inl finished
  · have occupied : Finished p first ∨ ∃ slot, Occupied p slot := by
      rcases reached.stage accepted with queued | underway | finished
      · exact .inr (queued.occupied reached.tokens)
      · exact .inr (underway.occupied reached.tokens)
      · exact .inl finished
    rcases occupied with finished | ⟨slot, occupied⟩
    · exact .inl finished
    · obtain ⟨nobody, full⟩ := occupied.full reached single
      obtain ⟨new, there, way⟩ := moves.phase? now
      exact .inr ⟨new, there, way.bare nobody full bare⟩

theorem Yields.move (h : Yields p first later) (reached : Reachable plan p) (single : plan.capacity = 1)
    (moves : p.Move label q) (accepted : p.delivered first = 1) : Yields q first later := by
  rcases h.held reached single moves accepted with finished | bare
  · exact .inl (finished.move reached.accounted reached.tokens moves)
  · exact .inr bare

/-- A step that begins the task of the later call comes after the first task is over. -/
theorem Yields.finished (h : Yields p first later) (reached : Reachable plan p)
    (single : plan.capacity = 1) (moves : p.Move label q) (accepted : p.delivered first = 1)
    (begins : p.begins later < q.begins later) : Finished p first := by
  rcases h.held reached single moves accepted with finished | ⟨phase, now, bare⟩
  · exact finished
  · -- The call has no worker after the step either, so the step has not begun its task.
    have after := reached.accounted.move reached.tokens moves
    have unheard := after.unheard now bare.delivers
    rw [unheard.begins] at begins
    cases begins

theorem Yields.unheard (h : Yields p first later) (reached : Reachable plan p) :
    Finished p first ∨ Unheard p later := by
  rcases h with finished | ⟨phase, now, bare⟩
  · exact .inl finished
  · exact .inr (reached.accounted.unheard now bare.delivers)

theorem Leads.delivered {c : Call α} (led : p.Leads q) (made : p.calls[first]? = some c)
    (brings : c.op.isTask = true) (returned : c.phase = .returned .done) : q.delivered first = 1 := by
  have delivered := delivered_of_answers (led.answers (answers_of_returned made returned))
  change q.delivered first = c.op.isTask.toNat at delivered
  rw [brings] at delivered
  exact delivered

/-- A call made after another has returned stays behind it, whatever comes between. -/
theorem Leads.yields {op : Op} {c : Call α} (led : q.Leads r) (reached : Reachable plan p)
    (single : plan.capacity = 1) (stepped : p.step (.invoke op) = some q) (brings : op.isTask = true)
    (made : p.calls[first]? = some c) (accepted : c.op.isTask = true)
    (returned : c.phase = .returned .done) : Yields r first p.calls.length := by
  have next : p.Leads q := .of_step stepped
  refine led.induction (P := fun r => Yields r first p.calls.length) ?_ ?_
  · cases stepped
    refine .inr ⟨op.firstPhase, ?_, op.bare_firstPhase brings⟩
    simp [phase?]
  · intro r s label before h moves
    have before := next.trans before
    exact h.move (reached.leads before) single moves (before.delivered made accepted returned)

/-- A pool for one worker executes one task at a time. A task whose call has come after the call of
another task had returned is not begun before that other one is over. -/
theorem submissions_in_order (single : plan.capacity = 1) (reached : Reachable plan p) :
    p.executing ≤ 1 ∧
    ∀ first c op q r, p.calls[first]? = some c → c.op.isTask = true → c.phase = .returned .done →
      op.isTask = true → p.step (.invoke op) = some q → q.Leads r →
      (Finished r first ∨ Unheard r p.calls.length) ∧
      ∀ label s, r.step label = some s → r.begins p.calls.length < s.begins p.calls.length →
        Finished r first := by
  constructor
  · have balanced := reached.balanced
    have accounts : p.running = p.reservations + p.counted := balanced.accounts
    have bounded := balanced.bounded
    have counted := p.executing_le_counted
    rw [reached.plan_eq, single] at bounded
    omega
  · intro first c op q r made accepted returned brings stepped led
    have before : p.Leads r := .trans (.of_step stepped) led
    have later := reached.leads before
    have yields := led.yields reached single stepped brings made accepted returned
    refine ⟨yields.unheard later, ?_⟩
    intro label s next begins
    exact yields.finished later single (.of_step next) (before.delivered made accepted returned) begins

/-- The worker of the first task panics, and leaves since the pool is closed at that time. The task that
has waited is begun by another thread after the pool has been opened again. -/
theorem submissions_in_order_across_restart : ∃ p q r s : Pool Unit, Reachable { capacity := 1 } p ∧
    p.phase? 0 = some (.returned .done) ∧ p.begun = [] ∧ p.step (.invoke .submit) = some q ∧ q.Leads r ∧
    r.epoch = 1 ∧ r.workers.map (·.phase) = [.gone, .receiving] ∧ r.step (.worker 1 none) = some s ∧
    s.begun = [(1, 0), (0, 0)] ∧ r.executing ≤ 1 ∧ Finished r 0 := by
  let reopening : List (Label Unit) :=
    [.call 1 none, .worker 0 none, .worker 0 none, .invoke .release, .call 2 none,
      .finish 0 (.panicked .opaqueValue), .worker 0 none, .worker 0 none, .invoke .restart, .call 3 none,
      .thread 3 true, .call 2 none, .call 1 none]
  let replacing : List (Label Unit) :=
    [.worker 0 none, .worker 0 none, .worker 0 none, .worker 0 none, .worker 0 (some 1), .call 1 none,
      .call 1 none, .thread 1 true, .call 1 none, .call 1 none, .call 1 none, .call 1 none, .worker 1 none]
  obtain ⟨p, reached, seen⟩ := exists_reachable { capacity := 1 } ((hiring 0 0).take 8)
    (fun p => p.calls.map (fun c => (c.op, c.phase)) = [(.submit, .returned .done)] ∧ p.begun = [] ∧
      (p.step (.invoke .submit)).any fun q => (q.run (reopening ++ replacing)).any fun r =>
        r.epoch = 1 ∧ r.workers.map (·.phase) = [.gone, .receiving] ∧ r.begins 1 = 0 ∧
        (r.step (.worker 1 none)).any fun s => s.begun = [(1, 0), (0, 0)])
    (by decide)
  obtain ⟨calls, waits, seen⟩ := of_decide_eq_true seen
  obtain ⟨q, invoked, seen⟩ := (Option.any_eq_true _ _).mp seen
  obtain ⟨r, ran, seen⟩ := (Option.any_eq_true _ _).mp seen
  obtain ⟨epoch, workers, unbegun, seen⟩ := of_decide_eq_true seen
  obtain ⟨s, stepped, begun⟩ := (Option.any_eq_true _ _).mp seen
  have begun := of_decide_eq_true begun
  obtain ⟨c, calls, eq⟩ := List.map_eq_singleton_iff.mp calls
  obtain ⟨submits, returned⟩ := Prod.mk.inj eq
  have made : p.calls[0]? = some c := by rw [calls]; rfl
  have led : q.Leads r := ⟨_, ran⟩
  obtain ⟨-, ordered⟩ := submissions_in_order rfl reached
  obtain ⟨alone, -⟩ := submissions_in_order rfl (reached.leads (.trans (.of_step invoked) led))
  obtain ⟨-, before⟩ := ordered 0 c .submit q r made (by rw [submits]; rfl) returned rfl invoked led
  refine ⟨p, q, r, s, reached, ?_, waits, invoked, led, epoch, workers, stepped, begun, alone, ?_⟩
  · rw [phase?, made, Option.map_some, returned]
  · apply before _ s stepped
    rw [calls]
    change r.begins 1 < s.begins 1
    rw [unbegun, begins, begun]
    decide

end Pool
end WorkerPool
