import WorkerPool.Proofs.Pool.Move

/-!
# Rows of steps

What one move keeps, every row of moves keeps. `Leads` is the relation between the pool before a
row of steps and the pool after it; the induction principles are `Leads.induction` and
`Reachable.induction`.
-/

namespace WorkerPool.Pool

variable {α : Type} {plan : Plan} {p q r : Pool α}

/-- A new pool. -/
def fresh (α : Type) (plan : Plan) : Pool α :=
  { plan, sweepers := [{ epoch := 0 }], notices := [.created] }

/-- Whether the second pool comes about from the first by steps. -/
def Leads (p q : Pool α) : Prop := ∃ labels, p.run labels = some q

theorem build_eq_ok (h : build plan true = .ok p) : 0 < plan.capacity ∧ p = fresh α plan := by
  by_cases nobody : plan.capacity = 0
  · simp [build, Plan.check, nobody, bind, Except.bind] at h
  · by_cases never : plan.expiry.nanos = 0
    · simp [build, Plan.check, nobody, never, bind, Except.bind] at h
    · refine ⟨Nat.pos_of_ne_zero nobody, ?_⟩
      simpa [build, Plan.check, nobody, never, bind, Except.bind, pure, Except.pure, fresh,
        eq_comm] using h

theorem step_call {call : Nat} {phase : Phase} (now : p.phase? call = some phase) (wakes : Option Nat) :
    p.step (.call call wakes) = p.callStep call wakes phase := by
  rw [step, now]
  rfl

theorem run_cons {label : Label α} {rest : List (Label α)} (h : p.step label = some q) :
    p.run (label :: rest) = q.run rest := by
  rw [run, h]
  rfl

theorem run_append (labels others : List (Label α)) :
    p.run (labels ++ others) = (p.run labels).bind fun q => q.run others := by
  induction labels generalizing p with
  | nil => rfl
  | cons label labels ih =>
    simp only [List.cons_append, run]
    cases p.step label with
    | none => rfl
    | some q => exact ih

theorem Leads.refl (p : Pool α) : p.Leads p := ⟨[], rfl⟩

theorem Leads.trans (first : p.Leads q) (second : q.Leads r) : p.Leads r := by
  obtain ⟨labels, h⟩ := first
  obtain ⟨others, h'⟩ := second
  exact ⟨labels ++ others, by simp [run_append, h, h']⟩

theorem Leads.of_step {label : Label α} (h : p.step label = some q) : p.Leads q :=
  ⟨[label], by simp [run, h]⟩

/-- What holds at the start and survives every move of a row holds at its end. -/
theorem Leads.induction {P : Pool α → Prop} (h : p.Leads q) (start : P p)
    (move : ∀ {r s : Pool α} {label}, p.Leads r → P r → r.Move label s → P s) : P q := by
  obtain ⟨labels, h⟩ := h
  suffices ∀ r, p.Leads r → P r → r.run labels = some q → P q from this p (.refl p) start h
  clear h
  induction labels with
  | nil =>
    intro r _ holds h
    cases h
    exact holds
  | cons label labels ih =>
    intro r led holds h
    obtain ⟨s, stepped, h⟩ := Option.bind_eq_some_iff.mp h
    exact ih s (led.trans (.of_step stepped)) (move led holds (.of_step stepped)) h

theorem reachable_iff : Reachable plan p ↔ ∃ start, build plan true = .ok start ∧ start.Leads p := by
  constructor
  · rintro ⟨start, labels, built, h⟩
    exact ⟨start, built, labels, h⟩
  · rintro ⟨start, built, labels, h⟩
    exact ⟨start, labels, built, h⟩

theorem Reachable.leads (reached : Reachable plan p) (h : p.Leads q) : Reachable plan q := by
  obtain ⟨start, built, led⟩ := reachable_iff.mp reached
  exact reachable_iff.mpr ⟨start, built, led.trans h⟩

/-- What holds of a new pool and survives every move between reachable pools holds of every
reachable pool. -/
theorem Reachable.induction {P : Pool α → Prop} (reached : Reachable plan p)
    (start : 0 < plan.capacity → P (fresh α plan))
    (move : ∀ {r s : Pool α} {label}, Reachable plan r → P r → r.Move label s → P s) : P p := by
  obtain ⟨first, built, led⟩ := reachable_iff.mp reached
  obtain ⟨positive, rfl⟩ := build_eq_ok built
  exact led.induction (start positive) fun before =>
    move (reachable_iff.mpr ⟨_, built, before⟩)

/-- What the steps of a row yield, in their order. -/
def gather {β : Type} (yields : Pool α → Label α → Pool α → List β) (p : Pool α) :
    List (Label α) → List β
  | [] => []
  | label :: rest => (p.step label).elim [] fun q => yields p label q ++ q.gather yields rest

/-- What holds of a pool and of what its steps have yielded. -/
theorem Reachable.gather {β : Type} {yields : Pool α → Label α → Pool α → List β}
    {P : Pool α → List β → Prop} {labels : List (Label α)} {before : List β}
    (reached : Reachable plan p) (start : P p before)
    (move : ∀ {r s : Pool α} {label before}, Reachable plan r → P r before → r.Move label s →
      P s (before ++ yields r label s))
    (ran : p.run labels = some q) : P q (before ++ p.gather yields labels) := by
  induction labels generalizing p before with
  | nil =>
    cases ran
    simpa [Pool.gather] using start
  | cons label labels ih =>
    obtain ⟨r, stepped, ran⟩ := Option.bind_eq_some_iff.mp ran
    simp only [Pool.gather, stepped, Option.elim_some, ← List.append_assoc]
    exact ih (reached.leads (.of_step stepped)) (move reached start (.of_step stepped)) ran

/-- What holds of a new pool that has yielded nothing, and survives every step and what it yields, holds of
every pool and what its run has yielded. -/
theorem gather_induction {β : Type} {yields : Pool α → Label α → Pool α → List β}
    {P : Pool α → List β → Prop} {start : Pool α} {labels : List (Label α)}
    (built : build plan true = .ok start) (ran : start.run labels = some p) (first : P (fresh α plan) [])
    (move : ∀ {r s : Pool α} {label before}, Reachable plan r → P r before → r.Move label s →
      P s (before ++ yields r label s)) : P p (start.gather yields labels) := by
  obtain ⟨-, rfl⟩ := build_eq_ok built
  have reached : Reachable plan (fresh α plan) := ⟨_, [], built, rfl⟩
  exact reached.gather first move ran

/-- A pool that some row of steps leads to and that passes a test. -/
theorem exists_reachable (plan : Plan) (labels : List (Label α)) (test : Pool α → Bool)
    (h : ((build plan true).toOption.bind (·.run labels)).any test = true) :
    ∃ p : Pool α, Reachable plan p ∧ test p = true := by
  obtain ⟨p, made, seen⟩ := (Option.any_eq_true _ _).mp h
  refine ⟨p, ?_, seen⟩
  cases built : build (α := α) plan true with
  | error e =>
    rw [built] at made
    cases made
  | ok start =>
    rw [built] at made
    exact ⟨start, labels, built, made⟩

/-- The labels of a submission that gets a new worker, until its task is executed. -/
def hiring (call thread : Nat) : List (Label α) :=
  [.invoke .submit, .call call none, .call call none, .thread call true, .call call none,
    .call call none, .call call none, .call call none, .worker thread none, .worker thread none]

end WorkerPool.Pool
