import WorkerPool.Proofs.Pool.Census

/-!
# Workers that fall

A worker falls when what a panic carries is dropped and panics in its turn. It counts as running for ever,
and nobody gets its slot back. No worker falls for another reason: in a gentle row of steps, where no panic
of a task or of the handler carries such a value, all workers stay up.
-/

namespace WorkerPool

def WorkerPhase.isFallen : WorkerPhase → Bool
  | .fallen => true
  | _ => false

/-- Whether a worker has fallen or is about to. -/
def WorkerPhase.isHurt : WorkerPhase → Bool
  | .fallen => true
  | .unwound payload => payload.isVolatile
  | _ => false

def Worker.fallenOn (slot : Nat) (w : Worker) : Bool := w.phase.isFallen && w.slot == slot

/-- Whether a task ends in a panic whose payload is volatile. -/
def Label.isVolatile {α : Type} : Label α → Bool
  | .finish _ (.panicked payload) => payload.isVolatile
  | _ => false

namespace Pool

variable {α : Type} {plan : Plan} {p q start : Pool α} {label : Label α} {labels : List (Label α)}
  {thread slot : Nat} {wakes : Option Nat} {old new : WorkerPhase}

/-- Whether no panic in a row of steps, be it of a task or of the handler, carries a volatile value. -/
def Gentle (plan : Plan) (labels : List (Label α)) : Prop :=
  plan.handler.isVolatile = false ∧ ∀ label ∈ labels, label.isVolatile = false

instance (plan : Plan) (labels : List (Label α)) : Decidable (Gentle plan labels) := by
  unfold Gentle
  infer_instance

/-- The slots of the workers that have fallen. -/
def fallen (p : Pool α) : List Nat := (p.workers.filter (·.phase.isFallen)).map (·.slot)

def hurt (p : Pool α) : Nat := p.workersIn (·.phase.isHurt)

theorem length_fallen (p : Pool α) : p.fallen.length = p.workersIn (·.phase.isFallen) := by
  rw [fallen, List.length_map, ← List.countP_eq_length_filter]
  rfl

/-- How often a slot is among the slots of the workers in phases of a kind. -/
theorem count_slots (p : Pool α) (kind : WorkerPhase → Bool) (slot : Nat) :
    ((p.workers.filter (kind ·.phase)).map (·.slot)).count slot =
      p.workersIn fun w => kind w.phase && w.slot == slot := by
  simp only [workersIn, List.count, List.countP_filter, List.countP_map]
  congr 1
  funext w
  simp [Bool.and_comm]

theorem count_fallen (p : Pool α) (slot : Nat) :
    p.fallen.count slot = p.workersIn (Worker.fallenOn slot) :=
  count_slots p WorkerPhase.isFallen slot

/-- Unless the handler is volatile, only a worker that is hurt is so after its next step. -/
theorem WorkerMove.isHurt_le (moves : WorkerMove p slot wakes old new q)
    (gentle : p.plan.handler.isVolatile = false) : new.isHurt.toNat ≤ old.isHurt.toNat := by
  cases moves with
  | fall volatile =>
    rw [gentle, Bool.or_false] at volatile
    simp [WorkerPhase.isHurt, volatile]
  | _ => exact Nat.zero_le _

theorem Move.hurt_le (moves : p.Move label q) (gentle : p.plan.handler.isVolatile = false)
    (mild : label.isVolatile = false) : q.hurt ≤ p.hurt := by
  unfold hurt
  cases moves with
  | call now moves => exact Nat.le_of_eq (moves.workersIn _)
  | @thread call granted old new q now moves =>
    have hired : new.hired.any (·.phase.isHurt) = false := by cases new <;> rfl
    have same := moves.workersIn (·.phase.isHurt)
    rw [hired] at same
    exact Nat.le_of_eq same
  | worker now moves =>
    have change := moves.workersIn WorkerPhase.isHurt now
    have mild := moves.isHurt_le gentle
    omega
  | @finish thread outcome slot task now =>
    have change := workersIn_finish WorkerPhase.isHurt outcome now
    have unhurt : outcome.aftermath.isHurt = false := by
      cases outcome with
      | returned => rfl
      | panicked => exact mild
    rw [unhurt] at change
    exact Nat.le_of_eq change
  | sweeper now moves => exact Nat.le_of_eq (moves.workersIn _)
  | _ => exact Nat.le_refl _

structure Steady (p : Pool α) : Prop where
  handler : p.plan.handler.isVolatile = false
  unhurt : p.hurt = 0

theorem Steady.move (h : Steady p) (moves : p.Move label q) (mild : label.isVolatile = false) :
    Steady q where
  handler := moves.plan_eq ▸ h.handler
  unhurt := Nat.le_zero.mp (h.unhurt ▸ moves.hurt_le h.handler mild)

theorem Steady.run (h : Steady p) (ran : p.run labels = some q)
    (mild : ∀ label ∈ labels, label.isVolatile = false) : Steady q := by
  induction labels generalizing p with
  | nil =>
    cases ran
    exact h
  | cons label labels ih =>
    obtain ⟨r, stepped, ran⟩ := Option.bind_eq_some_iff.mp ran
    have next := h.move (.of_step stepped) (mild label List.mem_cons_self)
    exact ih next ran fun label member => mild label (List.mem_cons_of_mem _ member)

theorem Gentle.steady (gentle : Gentle plan labels) (built : build plan true = .ok start)
    (ran : start.run labels = some p) : Steady p := by
  obtain ⟨-, rfl⟩ := build_eq_ok built
  exact Steady.run ⟨gentle.1, rfl⟩ ran gentle.2

theorem Steady.payload (h : Steady p) {payload : Payload}
    (now : p.workers[thread]? = some ⟨slot, .unwound payload⟩) : payload.isVolatile = false := by
  apply Bool.eq_false_iff.mpr
  intro volatile
  have hurt : 0 < p.hurt := workersIn_pos now volatile
  rw [h.unhurt] at hurt
  cases hurt

/-- No worker falls in a gentle run. -/
theorem fallen_eq_nil (built : build plan true = .ok start) (ran : start.run labels = some p)
    (gentle : Gentle plan labels) : p.fallen = [] := by
  have steady := gentle.steady built ran
  have fallen : p.workersIn (·.phase.isFallen) ≤ p.hurt := by
    apply workersIn_mono
    intro w fallen
    cases phase : w.phase <;> rw [phase] at fallen <;> first | rfl | cases fallen
  rw [steady.unhurt, ← length_fallen] at fallen
  exact List.length_eq_zero_iff.mp (Nat.le_zero.mp fallen)

/-- The labels of a submission to a new pool whose worker falls. -/
def falling : List (Label α) :=
  hiring 0 0 ++ [.finish 0 (.panicked .volatile), .worker 0 none]

end Pool
end WorkerPool
