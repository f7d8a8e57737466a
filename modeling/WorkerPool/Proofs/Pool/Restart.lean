import WorkerPool.Proofs.Pool.Sweepers

/-!
# Restarts that fail

A restart opens the pool before it asks for a sweeper. It fails on a pool that is open already and
changes nothing. When the sweeper is refused its thread, the restart fails as well, but the pool stays
open, in an epoch that is never going to have a sweeper.
-/

namespace WorkerPool

def Label.isPass {α : Type} : Label α → Bool
  | .pass _ => true
  | _ => false

namespace Pool

variable {α : Type} {plan : Plan} {p q r : Pool α} {label : Label α} {labels : List (Label α)}
  {call : Nat} {answer : Answer} {e : PoolError} {unswept : List Nat}

/-- Whether nobody takes a step but one call. -/
def Alone (call : Nat) (labels : List (Label α)) : Prop :=
  ∀ label ∈ labels, label.caller? = some call ∨ label.isPass = true

instance (call : Nat) (labels : List (Label α)) : Decidable (Alone call labels) :=
  inferInstanceAs (Decidable (∀ label ∈ labels, label.caller? = some call ∨ label.isPass = true))

def reopened (p : Pool α) (clock : Nat) : Pool α :=
  { p with clock, closed := false, epoch := p.epoch + 1 }

def attended (p : Pool α) : Pool α :=
  { p with sweepers := p.sweepers ++ [({ epoch := p.epoch } : Sweeper)] }.note .restarted

/-- What a restart answers and what it leaves behind, but for its own phase. -/
inductive Tried (p : Pool α) : Answer → Pool α → Prop
  | notReleased {clock} (opened : p.closed = false) : Tried p (.failed .notReleased) { p with clock }
  | refused {clock} (closed : p.closed = true) :
      Tried p (.failed (.spawn refusalReason)) (p.reopened clock)
  | done {clock} (closed : p.closed = true) : Tried p .done (p.reopened clock).attended

inductive Attempt (p : Pool α) (call : Nat) : Pool α → Prop
  | asking {clock : Nat} : Attempt p call { p with clock }
  | starting {clock : Nat} (closed : p.closed = true) :
      Attempt p call ((p.reopened clock).setPhase call (.reopened (p.epoch + 1)))
  | ended {answer : Answer} {r : Pool α} (tried : Tried p answer r) :
      Attempt p call (r.setPhase call (.returned answer))

theorem setPhase_setPhase (p : Pool α) (call : Nat) (old new : Phase) :
    (p.setPhase call old).setPhase call new = p.setPhase call new := by
  simp [setPhase, List.modify_modify_eq, Function.comp_def]

theorem Tried.calls (h : Tried p answer r) : r.calls = p.calls := by
  cases h <;> rfl

theorem Tried.pass (h : Tried p answer r) (clock : Nat) : Tried p answer { r with clock } := by
  cases h with
  | notReleased opened => exact .notReleased opened
  | refused closed => exact .refused closed
  | done closed => exact .done closed

theorem Tried.phase? {phase : Phase} (h : Tried p answer r) (asked : p.phase? call = some phase) :
    (r.setPhase call (.returned answer)).phase? call = some (.returned answer) := by
  apply phase?_setPhase_self
  rw [Pool.phase?, h.calls]
  exact asked

theorem Move.alone (moves : q.Move label r)
    (alone : label.caller? = some call ∨ label.isPass = true) :
    (∃ clock, r = { q with clock }) ∨
      ∃ old new s, q.phase? call = some old ∧ r = s.setPhase call new ∧
        ((∃ wakes, CallMove q call wakes old new s) ∨ ∃ granted, ThreadMove q granted old new s) := by
  cases moves with
  | pass => exact .inl ⟨_, rfl⟩
  | call now moves =>
    rcases alone with ⟨⟨⟩⟩ | ⟨⟨⟩⟩
    exact .inr ⟨_, _, _, now, rfl, .inl ⟨_, moves⟩⟩
  | thread now moves =>
    rcases alone with ⟨⟨⟩⟩ | ⟨⟨⟩⟩
    exact .inr ⟨_, _, _, now, rfl, .inr ⟨_, moves⟩⟩
  | _ => rcases alone with ⟨⟨⟩⟩ | ⟨⟨⟩⟩

theorem Attempt.move (h : Attempt p call q) (asked : p.phase? call = some .reopening)
    (moves : q.Move label r) (alone : label.caller? = some call ∨ label.isPass = true) :
    Attempt p call r := by
  rcases moves.alone alone with ⟨clock, rfl⟩ | ⟨old, new, s, now, rfl, moves⟩
  · cases h with
    | asking => exact .asking
    | starting closed => exact .starting closed
    | ended tried => exact .ended (tried.pass clock)
  cases h with
  | asking =>
    cases asked.symm.trans now
    rcases moves with ⟨wakes, moves⟩ | ⟨granted, ⟨⟩⟩
    cases moves with
    | reopen closed => exact .starting closed
    | reopenAgain opened => exact .ended (.notReleased opened)
  | @starting clock closed =>
    cases (phase?_setPhase_self asked _).symm.trans now
    rcases moves with ⟨wakes, ⟨⟩⟩ | ⟨granted, moves⟩
    cases moves with
    | attend =>
      change Attempt p call (((p.reopened clock).attended.setPhase call _).setPhase call _)
      rw [setPhase_setPhase]
      exact .ended (.done closed)
    | abandon =>
      rw [setPhase_setPhase]
      exact .ended (.refused closed)
  | ended tried =>
    cases (tried.phase? asked).symm.trans now
    rcases moves with ⟨wakes, ⟨⟩⟩ | ⟨granted, ⟨⟩⟩

theorem Attempt.run (h : Attempt p call q) (asked : p.phase? call = some .reopening)
    (alone : Alone call labels) (ran : q.run labels = some r) : Attempt p call r := by
  induction labels generalizing q with
  | nil =>
    cases ran
    exact h
  | cons label labels ih =>
    obtain ⟨s, stepped, ran⟩ := Option.bind_eq_some_iff.mp ran
    have next := h.move asked (.of_step stepped) (alone label (.head _))
    exact ih next (fun other member => alone other (.tail _ member)) ran

theorem Attempt.tried (h : Attempt p call q) (asked : p.phase? call = some .reopening)
    (now : q.phase? call = some (.returned answer)) :
    ∃ r, Tried p answer r ∧ q = r.setPhase call (.returned answer) := by
  cases h with
  | asking => cases asked.symm.trans now
  | starting => cases (phase?_setPhase_self asked _).symm.trans now
  | ended tried =>
    cases (tried.phase? asked).symm.trans now
    exact ⟨_, tried, rfl⟩

/-- What becomes of a pool whose epoch has no sweeper. -/
structure Unattended (p : Pool α) : Prop where
  sweepers : ∀ s ∈ p.sweepers, s.epoch ≠ p.epoch
  evicts : ∀ label q, p.step label = some q → ¬p.Evicts label q
  /-- Nor does a restart help as long as the pool is open. -/
  restarts : p.closed = false → ∀ call wakes, p.phase? call = some .reopening →
    p.step (.call call wakes) = some (p.setPhase call (.returned (.failed .notReleased)))

theorem step_reopening_of_open (opened : p.closed = false) (asked : p.phase? call = some .reopening)
    (wakes : Option Nat) :
    p.step (.call call wakes) = some (p.setPhase call (.returned (.failed .notReleased))) := by
  rw [step_call asked, callStep, reopen, opened]
  rfl

/-- An epoch with neither a sweeper nor a call that is about to start one stays without. -/
theorem Staffed.unattended (h : Staffed p unswept) (nobody : p.posts p.epoch = 0) (led : p.Leads q)
    (same : q.epoch = p.epoch) : Unattended q := by
  have before := h p.epoch
  obtain ⟨more, later⟩ := h.leads led
  have after := later p.epoch
  rw [decide_eq_true (Nat.le_refl _), Bool.toNat_true] at before
  rw [decide_eq_true (Nat.le_of_eq same.symm), Bool.toNat_true, List.count_append] at after
  have without : p.epoch ∉ q.epochs := by
    apply List.count_eq_zero.mp
    unfold posts at after
    omega
  have others : ∀ s ∈ q.sweepers, s.epoch ≠ q.epoch := by
    rintro s member is
    rw [← same, ← is] at without
    exact without (List.mem_map_of_mem member)
  refine ⟨others, ?_, fun opened call wakes asked => step_reopening_of_open opened asked wakes⟩
  intro label r stepped evicts
  obtain ⟨thread, tick, -, there, -⟩ := (Move.of_step stepped).evicts evicts
  exact others _ (List.mem_of_getElem? there) rfl

theorem posts_refused (reached : Reachable plan p) (call clock : Nat) (e : PoolError) :
    ((p.reopened clock).setPhase call (.returned (.failed e))).posts (p.epoch + 1) = 0 := by
  obtain ⟨unswept, staffed⟩ := reached.staffed
  have ahead := staffed (p.epoch + 1)
  have calls : ((p.reopened clock).setPhase call (.returned (.failed e))).callsIn
      (Phase.attends (p.epoch + 1)) ≤ p.callsIn (Phase.attends (p.epoch + 1)) :=
    callsIn_setPhase_le (p.reopened clock) call rfl
  rw [decide_eq_false (Nat.not_succ_le_self _), Bool.toNat_false] at ahead
  unfold posts at ahead ⊢
  change _ + p.epochs.count (p.epoch + 1) = 0
  omega

/-- A restart that fails while nobody else acts has found the pool open and changes nothing, or it is
refused the sweeper and leaves the pool open without one. -/
theorem failed_restart (reached : Reachable plan p) (asked : p.phase? call = some .reopening)
    (alone : Alone call labels) (ran : p.run labels = some q)
    (failed : q.phase? call = some (.returned (.failed e))) :
    (e = .notReleased ∧ p.closed = false ∧
      q = { p with clock := q.clock }.setPhase call (.returned (.failed e))) ∨
    (e = .spawn refusalReason ∧ p.closed = true ∧
      q = { p with clock := q.clock, closed := false, epoch := p.epoch + 1 }.setPhase call
        (.returned (.failed e)) ∧
      ∀ r, q.Leads r → r.epoch = q.epoch → Unattended r) := by
  have attempt : Attempt p call q := Attempt.asking.run asked alone ran
  obtain ⟨r, tried, rfl⟩ := attempt.tried asked failed
  cases tried with
  | notReleased opened => exact .inl ⟨rfl, opened, rfl⟩
  | refused closed =>
    refine .inr ⟨rfl, closed, rfl, ?_⟩
    intro r led same
    obtain ⟨unswept, staffed⟩ := (reached.leads ⟨labels, ran⟩).staffed
    exact staffed.unattended (posts_refused reached ..) led same

/-- A worker that waits in a pool whose restart was refused its sweeper waits for good. -/
theorem failed_restart_before_submission : ∃ p q r : Pool Unit, Reachable { capacity := 1 } p ∧
    p.phase? 1 = some .reopening ∧ p.closed = true ∧ q.closed = false ∧ q.epoch = p.epoch + 1 ∧
    q.Leads r ∧ r.idle.workers = [0] ∧ Unattended r := by
  let release : List (Label Unit) :=
    [.invoke .release, .call 0 none, .call 0 none, .call 0 none, .invoke .restart]
  let restart : List (Label Unit) := [.call 1 none, .pass 1, .thread 1 false]
  let submission : List (Label Unit) := hiring 2 0 ++ [.finish 0 (.returned ()), .worker 0 none]
  obtain ⟨p, reached, seen⟩ := exists_reachable { capacity := 1 } release
    (fun p => p.phase? 1 = some .reopening ∧ p.closed = true ∧ (p.run restart).any fun q =>
      q.phase? 1 = some (.returned (.failed (.spawn refusalReason))) ∧
        (q.run submission).any fun r => r.epoch = q.epoch ∧ r.idle.workers = [0])
    (by decide)
  obtain ⟨asked, closed, seen⟩ := of_decide_eq_true seen
  obtain ⟨q, ran, seen⟩ := (Option.any_eq_true _ _).mp seen
  obtain ⟨failed, seen⟩ := of_decide_eq_true seen
  obtain ⟨r, later, seen⟩ := (Option.any_eq_true _ _).mp seen
  obtain ⟨same, waits⟩ := of_decide_eq_true seen
  rcases failed_restart reached asked (by decide) ran failed with
    ⟨⟨⟩, -⟩ | ⟨-, -, result, unattended⟩
  have led : q.Leads r := ⟨_, later⟩
  refine ⟨p, q, r, reached, asked, closed, ?_, ?_, led, waits, unattended r led same⟩
  · rw [result]
    rfl
  · rw [result]
    rfl

/-- A restart that is refused its sweeper leaves the pool open, in a new epoch, with all sweepers gone,
and cannot be repeated. -/
theorem failed_restart_changes_pool : ∃ (p q : Pool Unit) (labels : List (Label Unit)),
    Reachable { capacity := 1 } p ∧ p.phase? 1 = some .reopening ∧ Alone 1 labels ∧
    p.run labels = some q ∧ q.answer? 1 = some (.failed (.spawn refusalReason)) ∧
    p.closed = true ∧ q.closed = false ∧ p.epoch = 0 ∧ q.epoch = 1 ∧
    (∀ s ∈ q.sweepers, s.phase = .gone) ∧
    (q.run [.invoke .restart, .call 2 none]).bind (·.answer? 2) = some (.failed .notReleased) := by
  let release : List (Label Unit) :=
    [.sweeper 0, .sweeper 0, .invoke .release, .call 0 none, .call 0 none, .call 0 none, .sweeper 0,
      .invoke .restart]
  let restart : List (Label Unit) := [.call 1 none, .thread 1 false]
  obtain ⟨p, reached, seen⟩ := exists_reachable { capacity := 1 } release
    (fun p => p.phase? 1 = some .reopening ∧ p.closed = true ∧ p.epoch = 0 ∧
      (p.run restart).any fun q =>
        q.answer? 1 = some (.failed (.spawn refusalReason)) ∧ q.closed = false ∧ q.epoch = 1 ∧
        (∀ s ∈ q.sweepers, s.phase = .gone) ∧
        (q.run [.invoke .restart, .call 2 none]).bind (·.answer? 2) = some (.failed .notReleased))
    (by decide)
  obtain ⟨asked, closed, first, seen⟩ := of_decide_eq_true seen
  obtain ⟨q, ran, seen⟩ := (Option.any_eq_true _ _).mp seen
  obtain ⟨failed, opened, second, gone, again⟩ := of_decide_eq_true seen
  exact ⟨p, q, restart, reached, asked, by decide, ran, failed, closed, opened, first, second, gone, again⟩

end Pool
end WorkerPool
