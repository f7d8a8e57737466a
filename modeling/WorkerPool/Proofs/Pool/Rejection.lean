import WorkerPool.Proofs.Pool.Lifecycle
import WorkerPool.Proofs.Pool.Wakeup

/-!
# Calls that wait while the pool is closed

A release wakes all calls that wait, and each of them looks for a worker again. As long as the pool has
not been opened again, it finds the pool closed, is turned away, and its task never runs. A call looks
at whether the pool is closed, though, and not at whether it has been closed meanwhile: one that comes
to look after a restart waits or gets a worker as if there had been no release.
-/

namespace WorkerPool

/-- The way out of a closed pool for a call that has waited since a moment. -/
inductive Leaving (since : Nat) : Phase → Prop
  | waiting : Leaving since (.waiting since)
  | acquiring : Leaving since (.acquiring (some since))
  | turnedAway : Leaving since .turnedAway
  | returned : Leaving since (.returned (.failed .closed))

theorem Leaving.delivers {since : Nat} {phase : Phase} (h : Leaving since phase) (op : Op) :
    op.delivers phase = false := by
  cases h <;> rfl

namespace Pool

variable {α : Type} {plan : Plan} {p q r : Pool α} {label : Label α}
  {call closer since : Nat} {wakes : Option Nat} {phase : Phase}

/-- In a closed pool a call stays on its way out. -/
theorem PhaseMove.leaving {old new : Phase} (moves : PhaseMove p call q label old new)
    (closed : p.closed = true) (h : Leaving since old) : Leaving since new := by
  cases moves with
  | stay => exact h
  | wake =>
    cases h
    exact .acquiring
  | call moves =>
    cases h with
    | acquiring =>
      cases moves with
      | turnAway => exact .turnedAway
      | reuse opened | reserve opened | wait opened => cases opened.symm.trans closed
    | turnedAway =>
      cases moves
      exact .returned
    | waiting | returned => cases moves
  | thread moves => cases h <;> cases moves

/-- A call that waits when the pool is closed is on its way out until the pool is opened again. -/
theorem Leads.leaving (led : q.Leads r) (closed : q.closed = true)
    (blocked : q.phase? call = some (.waiting since)) (same : r.epoch = q.epoch) :
    ∃ phase, r.phase? call = some phase ∧ Leaving since phase := by
  refine led.induction (P := fun r => r.epoch = q.epoch →
    ∃ phase, r.phase? call = some phase ∧ Leaving since phase) ?_ ?_ same
  · exact fun _ => ⟨_, blocked, .waiting⟩
  · intro r s label before ih moves same
    -- The epoch has been the same all the time, since it never goes back.
    have first := before.epoch_le
    have second := Door.epoch_le moves.door
    have held : r.epoch = q.epoch := by
      change r.epoch ≤ s.epoch at second
      omega
    obtain ⟨old, now, leaves⟩ := ih held
    obtain ⟨new, after, way⟩ := moves.phase? now
    exact ⟨new, after, way.leaving (before.closed closed held) leaves⟩

/-- A task that has not been begun and is not in any channel. -/
structure Unheard (p : Pool α) (task : Nat) : Prop where
  begins : p.begins task = 0
  executions : p.executions task = 0
  channel : ∀ slot, .run task ∉ (p.slots.channel slot).queue

theorem Accounted.unheard (h : Accounted p) (now : p.phase? call = some phase)
    (kept : ∀ op : Op, op.delivers phase = false) : Unheard p call := by
  obtain ⟨c, made, rfl⟩ := Option.map_eq_some_iff.mp now
  have delivered : p.delivered call = 0 := by
    rw [delivered, markAt_of_getElem? (views_getElem? made Op.delivers), kept]
    rfl
  have begun := h.begun call
  have executed := h.executed call
  exact ⟨by omega, by omega, h.not_mem_of_begun (by omega)⟩

/-- Where nothing happens any more, a call has come to the end of its way out. -/
theorem Quiescent.returned_of_leaving (quiet : Quiescent p) (reached : Reachable plan p)
    (closed : p.closed = true) (now : p.phase? call = some phase) (h : Leaving since phase) :
    phase = .returned (.failed .closed) := by
  have rests : phase.rests = true := by
    obtain ⟨c, made, rfl⟩ := Option.map_eq_some_iff.mp now
    exact quiet.calls c (List.mem_of_getElem? made)
  cases h with
  | returned => rfl
  | acquiring | turnedAway => cases rests
  | waiting =>
    have waits : 0 < p.waiters := callsIn_pos now rfl
    rcases reached.served waits with rousing | ⟨opened, -⟩
    · have nobody : p.callsIn Phase.rouses = 0 :=
        quiet.callsIn_eq_zero fun phase rests => by cases phase <;> first | rfl | cases rests
      omega
    · cases opened.symm.trans closed

theorem TurnedAway.unheard (h : TurnedAway p call) (reached : Reachable plan p) : Unheard p call := by
  rcases h with now | now
  · exact reached.accounted.unheard now fun op => by cases op <;> rfl
  · exact reached.accounted.unheard now fun op => by cases op <;> rfl

/-- A call that waits when the pool is released is turned away and its task never runs, if it comes to
look for a worker before the pool is opened again. -/
theorem blocked_rejected_until_reopened (reached : Reachable plan p)
    (blocked : p.phase? call = some (.waiting since)) (releases : p.phase? closer = some .closing)
    (opened : p.closed = false) (stepped : p.step (.call closer wakes) = some q) :
    (∀ r, q.Leads r → r.epoch = q.epoch → ∃ phase, r.phase? call = some phase ∧
      Leaving since phase ∧ Unheard r call ∧
      (Quiescent r → phase = .returned (.failed .closed))) ∧
    ∀ r, q.Leads r → TurnedAway r call → ∀ s, r.Leads s → TurnedAway s call ∧ Unheard s call := by
  have after : Reachable plan q := reached.leads (.of_step stepped)
  obtain ⟨slots, result, -, -⟩ := reached.lawful.close closer wakes releases opened
  cases stepped.symm.trans result
  have others : closer ≠ call := by
    rintro rfl
    cases blocked.symm.trans releases
  let shut : Pool α := { p with closed := true, slots }.setIdle {}
  have blocked : (shut.setPhase closer (.wakingSubmitters p.idle.size)).phase? call =
      some (.waiting since) := (phase?_setPhase_of_ne others _).trans blocked
  refine ⟨fun r led same => ?_, fun r led away s later => ?_⟩
  · obtain ⟨phase, now, leaves⟩ := led.leaving rfl blocked same
    have reached := after.leads led
    exact ⟨phase, now, leaves, reached.accounted.unheard now leaves.delivers,
      fun quiet => quiet.returned_of_leaving reached (led.closed rfl same) now leaves⟩
  · have away := away.leads later
    exact ⟨away, away.unheard ((after.leads led).leads later)⟩

theorem blocked_rejected_before_restart : ∃ p q r s : Pool Unit, Reachable { capacity := 1 } p ∧
    p.phase? 1 = some (.waiting 0) ∧ p.step (.call 2 none) = some q ∧ q.Leads r ∧ r.Leads s ∧
    r.phase? 1 = some (.returned (.failed .closed)) ∧ s.closed = false ∧ s.epoch = 1 ∧
    TurnedAway s 1 ∧ Unheard s 1 := by
  let labels : List (Label Unit) :=
    hiring 0 0 ++ [.invoke .submit, .call 1 none, .invoke .release]
  let wake : List (Label Unit) := [.call 2 none, .call 2 none, .call 1 none, .call 1 none]
  let restart : List (Label Unit) := [.invoke .restart, .call 3 none, .thread 3 true]
  obtain ⟨p, reached, seen⟩ := exists_reachable { capacity := 1 } labels
    (fun p => p.phase? 1 = some (.waiting 0) ∧ p.phase? 2 = some .closing ∧ p.closed = false ∧
      (p.step (.call 2 none)).any fun q => (q.run wake).any fun r =>
        r.epoch = q.epoch ∧ Quiescent r ∧
        (r.run restart).any fun s => s.closed = false ∧ s.epoch = 1)
    (by decide)
  obtain ⟨blocked, releases, opened, seen⟩ := of_decide_eq_true seen
  obtain ⟨q, stepped, seen⟩ := (Option.any_eq_true _ _).mp seen
  obtain ⟨r, woken, seen⟩ := (Option.any_eq_true _ _).mp seen
  obtain ⟨same, quiet, seen⟩ := of_decide_eq_true seen
  obtain ⟨s, restarted, seen⟩ := (Option.any_eq_true _ _).mp seen
  obtain ⟨reopened, epoch⟩ := of_decide_eq_true seen
  obtain ⟨before, ever⟩ := blocked_rejected_until_reopened reached blocked releases opened stepped
  obtain ⟨phase, now, -, -, ended⟩ := before r ⟨_, woken⟩ same
  rw [ended quiet] at now
  obtain ⟨away, unheard⟩ := ever r ⟨_, woken⟩ (.inr now) s ⟨_, restarted⟩
  exact ⟨p, q, r, s, reached, blocked, stepped, ⟨_, woken⟩, ⟨_, restarted⟩, now, reopened, epoch, away,
    unheard⟩

/-- A call that waits when the pool is released may come to look for a worker only after a restart.
Then it waits again, and its task is executed in the end. -/
theorem blocked_served_after_restart : ∃ p q r : Pool Unit, Reachable { capacity := 1 } p ∧
    p.closed = false ∧ p.phase? 1 = some (.waiting 0) ∧ p.phase? 2 = some .closing ∧
    p.step (.call 2 none) = some q ∧ q.closed = true ∧ q.Leads r ∧
    r.answer? 2 = some .done ∧ r.answer? 1 = some .done ∧ r.begins 1 = 1 := by
  let labels : List (Label Unit) :=
    hiring 0 0 ++ [.invoke .submit, .call 1 none, .invoke .release]
  let reopening : List (Label Unit) :=
    [.call 2 none, .call 2 none, .invoke .restart, .call 3 none, .thread 3 true, .call 1 none]
  let serving : List (Label Unit) :=
    [.finish 0 (.returned ()), .worker 0 (some 1), .call 1 none, .call 1 none, .call 1 none,
      .worker 0 none]
  obtain ⟨p, reached, seen⟩ := exists_reachable { capacity := 1 } labels
    (fun p => p.closed = false ∧ p.phase? 1 = some (.waiting 0) ∧ p.phase? 2 = some .closing ∧
      (p.step (.call 2 none)).any fun q => q.closed = true ∧
        (q.run (reopening ++ serving)).any fun r =>
          r.answer? 2 = some .done ∧ r.answer? 1 = some .done ∧ r.begins 1 = 1)
    (by decide)
  obtain ⟨opened, blocked, releases, seen⟩ := of_decide_eq_true seen
  obtain ⟨q, stepped, seen⟩ := (Option.any_eq_true _ _).mp seen
  obtain ⟨closed, seen⟩ := of_decide_eq_true seen
  obtain ⟨r, ran, seen⟩ := (Option.any_eq_true _ _).mp seen
  obtain ⟨released, submitted, begun⟩ := of_decide_eq_true seen
  exact ⟨p, q, r, reached, opened, blocked, releases, stepped, closed, ⟨_, ran⟩, released, submitted, begun⟩

end Pool
end WorkerPool
