import WorkerPool.Proofs.Pool.Census

/-!
# The number of running workers

The number is raised under the lock of the pool, before there is a thread, and lowered outside of
it. Between the two it is accounted for by a reservation of a call or by a worker thread, whichever
of them has it at the time, and this is what keeps it within the capacity.
-/

namespace WorkerPool

/-- Whether a call holds a reservation for a worker that has no thread. -/
def Phase.reserves : Phase → Bool
  | .reserved | .starting _ | .refused => true
  | _ => false

/-- Whether a worker still counts as running. -/
def WorkerPhase.counts : WorkerPhase → Bool
  | .lowered | .publishing _ | .leaving | .gone => false
  | _ => true

def WorkerPhase.isExecuting : WorkerPhase → Bool
  | .executing _ => true
  | _ => false

namespace Pool

variable {α : Type} {plan : Plan} {p q : Pool α} {call thread slot : Nat} {wakes : Option Nat}

/-- Number of workers that calls have reserved, have no thread for and have not given back. -/
def reservations (p : Pool α) : Nat := p.callsIn Phase.reserves

/-- Number of worker threads that still count as running. -/
def counted (p : Pool α) : Nat := p.workersIn (·.phase.counts)

/-- Number of tasks that are executed. -/
def executing (p : Pool α) : Nat := p.workersIn (·.phase.isExecuting)

structure Balanced (p : Pool α) : Prop where
  accounts : p.running = p.tally Phase.reserves (·.phase.counts)
  bounded : p.running ≤ p.plan.capacity

theorem blind_reserves : Blind fun _ => Phase.reserves := fun _ phase => by cases phase <;> rfl

theorem lowered_of_pos {n : Nat} (h : 0 < n) : lowered n + 1 = n := by
  rw [lowered, if_neg (by omega)]
  omega

section Moves

variable {old new : Phase}

theorem CallMove.running (moves : CallMove p call wakes old new q)
    (h : old.reserves = true → 0 < p.running) :
    q.running + old.reserves.toNat = p.running + new.reserves.toNat := by
  cases moves with
  | giveBack => exact lowered_of_pos (h rfl)
  | _ => rfl

/-- Only a look for a worker raises the number, and only where there is room. -/
theorem CallMove.running_le (moves : CallMove p call wakes old new q)
    (h : old.reserves = true → 0 < p.running) :
    q.running ≤ p.running ∨ q.running ≤ p.plan.capacity := by
  cases moves with
  | reserve opened nobody room => exact .inr room
  | giveBack =>
    left
    have := lowered_of_pos (h rfl)
    change lowered p.running ≤ p.running
    omega
  | _ => exact .inl (Nat.le_refl _)

theorem Balanced.reserved_pos (h : Balanced p) (now : p.phase? call = some old)
    (reserves : old.reserves = true) : 0 < p.running := by
  have := callsIn_pos now reserves
  have := h.accounts
  unfold tally at this
  omega

theorem Balanced.counted_pos {w : Worker} (h : Balanced p) (now : p.workers[thread]? = some w)
    (counts : w.phase.counts = true) : 0 < p.running := by
  have : 0 < p.workersIn (·.phase.counts) := workersIn_pos now counts
  have := h.accounts
  unfold tally at this
  omega

theorem Balanced.callMove (h : Balanced p) (now : p.phase? call = some old)
    (moves : CallMove p call wakes old new q) : Balanced (q.setPhase call new) := by
  have positive := h.reserved_pos now
  constructor
  · have running := moves.running positive
    have accounts := h.accounts
    have tally := moves.tally (·.phase.counts) now fun _ => blind_reserves
    change q.running = _
    omega
  · have bounded := h.bounded
    change q.running ≤ q.plan.capacity
    rw [moves.plan_eq]
    rcases moves.running_le positive with kept | room <;> omega

theorem Balanced.threadMove {granted : Bool} (h : Balanced p) (now : p.phase? call = some old)
    (moves : ThreadMove p granted old new q) : Balanced (q.setPhase call new) := by
  have accounts := h.accounts
  have tally := moves.tally Phase.reserves (·.phase.counts) now
  constructor
  · change q.running = _
    have same : q.running + old.reserves.toNat =
        p.running + new.reserves.toNat + (new.hired.any (·.phase.counts)).toNat := by
      cases moves <;> rfl
    omega
  · have bounded := h.bounded
    cases moves <;> exact bounded

end Moves

section Moves

variable {old new : WorkerPhase}

theorem WorkerMove.running (moves : WorkerMove p slot wakes old new q)
    (h : old.counts = true → 0 < p.running) :
    q.running + old.counts.toNat = p.running + new.counts.toNat := by
  cases moves with
  | lower => exact lowered_of_pos (h rfl)
  | _ => rfl

theorem WorkerMove.counts_le (moves : WorkerMove p slot wakes old new q) :
    new.counts.toNat ≤ old.counts.toNat := by
  cases moves <;> simp [WorkerPhase.counts]

theorem Balanced.workerMove (h : Balanced p) (now : p.workers[thread]? = some ⟨slot, old⟩)
    (moves : WorkerMove p slot wakes old new q) : Balanced (q.setWorker thread new) := by
  have running := moves.running (h.counted_pos now)
  constructor
  · have accounts := h.accounts
    have tally := moves.tally (·.phase.counts) now fun _ => blind_reserves
    change q.running = _
    dsimp only at tally
    omega
  · have bounded := h.bounded
    have := moves.counts_le
    change q.running ≤ q.plan.capacity
    rw [moves.plan_eq]
    omega

end Moves

theorem Balanced.move {label : Label α} (h : Balanced p) (moves : p.Move label q) : Balanced q := by
  cases moves with
  | pass => exact ⟨h.accounts, h.bounded⟩
  | @invoke op =>
    refine ⟨?_, h.bounded⟩
    have nothing : op.firstPhase.reserves = false := by cases op <;> rfl
    change p.running = _
    rw [tally_invoke, nothing]
    exact h.accounts
  | call now moves => exact h.callMove now moves
  | thread now moves => exact h.threadMove now moves
  | @stir call since now =>
    refine ⟨?_, h.bounded⟩
    rw [tally_rouse blind_reserves]
    exact h.accounts
  | worker now moves => exact h.workerMove now moves
  | @finish thread outcome slot task now =>
    refine ⟨?_, h.bounded⟩
    have tally := tally_finish Phase.reserves (·.phase.counts) outcome now
    have counts : outcome.aftermath.counts = true := by cases outcome <;> rfl
    rw [counts] at tally
    exact h.accounts.trans (Nat.add_right_cancel tally).symm
  | @sweeper thread epoch old new r now moves =>
    constructor
    · rw [moves.tally, ← h.accounts]
      cases moves <;> rfl
    · have bounded := h.bounded
      cases moves <;> exact bounded
  | stirSweeper now => exact ⟨h.accounts, h.bounded⟩

theorem Reachable.balanced (reached : Reachable plan p) : Balanced p :=
  reached.induction (P := Balanced) (fun _ => ⟨rfl, Nat.zero_le _⟩) fun _ h moves => h.move moves

/-- The number of running workers is the number of reservations and of workers that count, it stays
within the capacity, and it is never lowered below zero. -/
theorem running_le_capacity (reached : Reachable plan p) :
    p.running = p.reservations + p.counted ∧
    p.running ≤ plan.capacity ∧
    p.executing ≤ p.running ∧
    (∀ call, p.phase? call = some .refused → 0 < p.running) ∧
    ∀ w ∈ p.workers, w.phase = .lowering → 0 < p.running := by
  have h := reached.balanced
  have accounts : p.running = p.reservations + p.counted := h.accounts
  refine ⟨accounts, reached.plan_eq ▸ h.bounded, ?_, ?_, ?_⟩
  · have : p.executing ≤ p.counted := by
      apply workersIn_mono
      intro w executing
      cases w with
      | mk slot phase => cases phase <;> first | rfl | cases executing
    omega
  · exact fun call now => h.reserved_pos now rfl
  · intro w member lowering
    obtain ⟨thread, now⟩ := List.mem_iff_getElem?.mp member
    exact h.counted_pos now (by rw [lowering]; rfl)

theorem running_le_capacity_amid_release : ∃ p : Pool Unit,
    Reachable { capacity := 3 } p ∧ p.phase? 2 = some .refused ∧
    p.workers.map (·.phase) = [.lowering, .executing 1] ∧
    p.running = p.reservations + p.counted ∧ p.executing ≤ p.running ∧ p.running ≤ 3 := by
  let labels : List (Label Unit) :=
    hiring 0 0 ++ hiring 1 1 ++ [.invoke .submit, .call 2 none, .call 2 none, .thread 2 false,
      .finish 0 (.returned ()), .invoke .release, .call 3 none, .worker 0 none, .worker 0 none]
  obtain ⟨p, reached, seen⟩ := exists_reachable { capacity := 3 } labels
    (fun p => p.phase? 2 = some .refused ∧ p.workers.map (·.phase) = [.lowering, .executing 1])
    (by decide)
  obtain ⟨refused, phases⟩ := of_decide_eq_true seen
  obtain ⟨accounts, bounded, executing, _⟩ := running_le_capacity reached
  exact ⟨p, reached, refused, phases, accounts, executing, bounded⟩

end Pool
end WorkerPool
