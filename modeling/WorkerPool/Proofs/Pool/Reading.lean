import WorkerPool.Proofs.Pool.Lifecycle
import WorkerPool.Proofs.Pool.Snapshot

/-!
# Where a snapshot comes from

A snapshot is read in three steps, and others may come between them: first the roster, then the slots,
then the number of running workers. So it is put together of three pools, each of which has led to the
next. What relates numbers that are read in one step holds of every snapshot. The roster and the number of
running workers are read in different steps: a worker that has been counted in the roster may be gone when
the running ones are counted.
-/

namespace WorkerPool

/-- Whether what a snapshot has read so far comes from pools that have led to this one. -/
def Phase.Origin {α : Type} (plan : Plan) (p : Pool α) : Phase → Prop
  | .countingSlots idle closed => ∃ a : Pool α, Pool.Reachable plan a ∧ a.Leads p ∧
    idle = a.idle.size ∧ closed = a.closed
  | .countingRunning idle closed cached allocated => ∃ a b : Pool α, Pool.Reachable plan a ∧ a.Leads b ∧
    b.Leads p ∧ idle = a.idle.size ∧ closed = a.closed ∧ cached = b.slots.cached ∧
    allocated = b.slots.allocated
  | .returned (.stats s) => ∃ a b c : Pool α, Pool.Reachable plan a ∧ a.Leads b ∧ b.Leads c ∧ c.Leads p ∧
    s = { c.stats with
      idle := a.idle.size, closed := a.closed, cached := b.slots.cached, allocated := b.slots.allocated }
  | _ => True

theorem Op.origin_firstPhase {α : Type} (op : Op) (plan : Plan) (p : Pool α) :
    op.firstPhase.Origin plan p := by
  cases op <;> trivial

theorem Phase.Origin.leads {α : Type} {plan : Plan} {p q : Pool α} {phase : Phase}
    (h : phase.Origin plan p) (led : p.Leads q) : phase.Origin plan q := by
  cases phase with
  | countingSlots =>
    obtain ⟨a, reached, first, rest⟩ := h
    exact ⟨a, reached, first.trans led, rest⟩
  | countingRunning =>
    obtain ⟨a, b, reached, first, second, rest⟩ := h
    exact ⟨a, b, reached, first, second.trans led, rest⟩
  | returned answer =>
    cases answer with
    | stats s =>
      obtain ⟨a, b, c, reached, first, second, third, rest⟩ := h
      exact ⟨a, b, c, reached, first, second, third.trans led, rest⟩
    | _ => trivial
  | _ => trivial

namespace Pool

variable {α : Type} {plan : Plan} {p q : Pool α} {label : Label α} {labels : List (Label α)}
  {call : Nat} {s : Stats}

theorem length_le_of_count_le {l m : List Nat} (h : ∀ x, l.count x ≤ m.count x) : l.length ≤ m.length := by
  induction l generalizing m with
  | nil => exact Nat.zero_le _
  | cons x l ih =>
    have member : x ∈ m := by
      apply List.count_pos_iff.mp
      have more := h x
      rw [List.count_cons_self] at more
      omega
    have rest : l.length ≤ (m.erase x).length := by
      apply ih
      intro y
      have more := h y
      rw [List.count_cons] at more
      rw [List.count_erase]
      omega
    rw [List.length_erase_of_mem member] at rest
    have some := List.length_pos_of_mem member
    rw [List.length_cons]
    omega

/-- Each worker in the roster listens at a channel of its own, and counts as running. -/
theorem Reachable.idle_le (reached : Reachable plan p) : p.idle.size ≤ p.running := by
  have tokens := reached.tokens
  have listening : p.idle.workers.length ≤
      ((p.workers.filter (·.phase.listens)).map (·.slot)).length := by
    apply length_le_of_count_le
    intro slot
    have listeners := tokens.listeners_eq slot
    have same : ((p.workers.filter (·.phase.listens)).map (·.slot)).count slot = p.listeners slot :=
      count_slots p WorkerPhase.listens slot
    rw [same, listeners, stock]
    omega
  have counted : p.workersIn (·.phase.listens) ≤ p.counted := by
    apply workersIn_mono
    intro w
    cases w.phase <;> simp [WorkerPhase.listens, WorkerPhase.counts]
  have accounts : p.running = p.reservations + p.counted := reached.balanced.accounts
  rw [Roster.length_workers, List.length_map, ← List.countP_eq_length_filter] at listening
  change _ ≤ p.workersIn (·.phase.listens) at listening
  omega

theorem Reachable.cached_le (reached : Reachable plan p) : p.slots.cached ≤ p.slots.allocated := by
  obtain ⟨start, labels, built, ran⟩ := reached
  have sum := allocated_eq_add built ran
  omega

theorem Reachable.running_add_free (reached : Reachable plan p) : p.running + p.free = plan.capacity := by
  have bounded := reached.balanced.bounded
  rw [free]
  rw [reached.plan_eq] at bounded ⊢
  omega

theorem PhaseMove.origin {old new : Phase} (moves : PhaseMove p call q label old new)
    (reached : Reachable plan p) (led : p.Leads q) (h : old.Origin plan p) : new.Origin plan q := by
  cases moves with
  | stay => exact h.leads led
  | wake => trivial
  | call moves =>
    cases moves with
    | countIdle => exact ⟨p, reached, led, rfl, rfl⟩
    | countSlots =>
      obtain ⟨a, before, first, idle, closed⟩ := h
      exact ⟨a, p, before, first, led, idle, closed, rfl, rfl⟩
    | countRunning =>
      obtain ⟨a, b, before, first, second, rfl, rfl, rfl, rfl⟩ := h
      exact ⟨a, b, p, before, first, second, led, rfl⟩
    | _ => trivial
  | thread moves => cases moves <;> trivial

/-- Whether all that snapshots have read comes from pools that have led to this one. -/
def Shown (plan : Plan) (p : Pool α) : Prop :=
  ∀ call op phase, p.role? call = some (op, phase) → phase.Origin plan p

theorem Shown.step (h : Shown plan p) (reached : Reachable plan p) (stepped : p.step label = some q) :
    Shown plan q := by
  intro call op phase now
  have led : p.Leads q := .of_step stepped
  rcases (Move.of_step stepped).role?_cases now with ⟨-, rfl⟩ | ⟨old, before, way⟩
  · exact op.origin_firstPhase plan q
  · exact way.origin reached led (h call op old before)

theorem Shown.run (h : Shown plan p) (reached : Reachable plan p) (ran : p.run labels = some q) :
    Shown plan q := by
  -- `Reachable.induction` hands over the move alone, and here the step must lead on to the next pool.
  induction labels generalizing p with
  | nil =>
    cases ran
    exact h
  | cons label labels ih =>
    obtain ⟨r, stepped, ran⟩ := Option.bind_eq_some_iff.mp ran
    exact ih (h.step reached stepped) (reached.leads (.of_step stepped)) ran

theorem Reachable.shown (reached : Reachable plan p) : Shown plan p := by
  obtain ⟨start, labels, built, ran⟩ := reached
  have first : Reachable plan start := ⟨start, [], built, rfl⟩
  apply Shown.run _ first ran
  intro call op phase now
  obtain ⟨-, rfl⟩ := build_eq_ok built
  cases now

/-- A snapshot is put together of three pools, each of which has led to the next. -/
theorem snapshot_origin (reached : Reachable plan p) (answered : p.answer? call = some (.stats s)) :
    ∃ a b c : Pool α, Reachable plan a ∧ a.Leads b ∧ b.Leads c ∧ c.Leads p ∧ s = { c.stats with
      idle := a.idle.size, closed := a.closed, cached := b.slots.cached, allocated := b.slots.allocated } := by
  obtain ⟨op, role⟩ := role?_of_answer? answered
  exact reached.shown call op _ role

/-- What relates numbers that a snapshot reads at once holds of all snapshots. Only if workers have gone
between its steps may it show more waiting workers than running ones. -/
theorem snapshot_relations (reached : Reachable plan p) (answered : p.answer? call = some (.stats s)) :
    s.capacity = plan.capacity ∧ s.running ≤ s.capacity ∧ s.running + s.free = s.capacity ∧
    s.idle ≤ s.capacity ∧ s.cached ≤ s.allocated ∧ (s.closed = true → s.idle = 0) ∧
    ∃ a b c : Pool α, Reachable plan a ∧ a.Leads b ∧ b.Leads c ∧ c.Leads p ∧ s = { c.stats with
      idle := a.idle.size, closed := a.closed, cached := b.slots.cached, allocated := b.slots.allocated } ∧
      (a.running ≤ c.running → s.idle ≤ s.running) := by
  obtain ⟨a, b, c, first, second, third, fourth, rfl⟩ := snapshot_origin reached answered
  have middle := first.leads second
  have last := middle.leads third
  have sum := last.running_add_free
  have waiting := first.idle_le
  have before := first.running_add_free
  have capacity : c.plan.capacity = plan.capacity := by rw [last.plan_eq]
  dsimp only [Pool.stats]
  refine ⟨capacity, by omega, by omega, by omega, middle.cached_le, ?_, a, b, c, first, second, third,
    fourth, rfl, Nat.le_trans waiting⟩
  intro closed
  exact congrArg List.length (first.nobody closed)

/-- One worker waits and the other executes a task. -/
theorem snapshot_relations_of_waiting_worker : ∃ (p : Pool Unit) (s : Stats),
    Reachable { capacity := 2 } p ∧ p.answer? 2 = some (.stats s) ∧ s.idle = 1 ∧ s.running = 2 ∧
    s.cached ≤ s.allocated ∧ s.running + s.free = s.capacity := by
  let labels : List (Label Unit) :=
    hiring 0 0 ++ hiring 1 1 ++ [.finish 0 (.returned ()), .worker 0 none] ++ counting 2
  obtain ⟨p, reached, seen⟩ := exists_reachable { capacity := 2 } labels
    (fun p => (p.answer? 2).any fun answer => answer = .stats
      { name := defaultName, capacity := 2, idle := 1, running := 2, allocated := 2, submitted := 2 })
    (by decide)
  obtain ⟨answer, answered, seen⟩ := (Option.any_eq_true _ _).mp seen
  cases of_decide_eq_true seen
  obtain ⟨-, -, sum, -, cached, -⟩ := snapshot_relations reached answered
  exact ⟨p, _, reached, answered, rfl, rfl, cached, sum⟩

/-- A snapshot that nobody comes between shows no more waiting workers than running ones. -/
theorem snapshot_at_once (reached : Reachable plan p) :
    ∃ q, p.run (counting p.calls.length) = some q ∧ q.answer? p.calls.length = some (.stats p.stats) ∧
      p.stats.idle ≤ p.stats.running := by
  refine ⟨_, run_counting p, ?_, reached.idle_le⟩
  rw [answer?, phase?_add]
  rfl

/-- A worker may be gone between the steps of a snapshot, which then shows it waiting and not running. -/
theorem snapshot_torn : ∃ (p : Pool Unit) (s : Stats), Reachable { capacity := 1 } p ∧
    p.answer? 1 = some (.stats s) ∧ s.idle = 1 ∧ s.running = 0 := by
  let waiting : List (Label Unit) := hiring 0 0 ++ [.finish 0 (.returned ()), .worker 0 none]
  let leaving : List (Label Unit) :=
    [.invoke .release, .call 2 none, .worker 0 none, .worker 0 none, .worker 0 none]
  obtain ⟨p, reached, seen⟩ := exists_reachable { capacity := 1 }
    (waiting ++ [.invoke .stats, .call 1 none] ++ leaving ++ [.call 1 none, .call 1 none])
    (fun p => (p.answer? 1).any fun answer => answer = .stats
      { name := defaultName, capacity := 1, idle := 1, free := 1, cached := 1, allocated := 1, submitted := 1 })
    (by decide)
  obtain ⟨answer, answered, seen⟩ := (Option.any_eq_true _ _).mp seen
  cases of_decide_eq_true seen
  exact ⟨p, _, reached, answered, rfl, rfl⟩

end Pool
end WorkerPool
