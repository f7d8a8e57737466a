import WorkerPool.Proofs.Pool.Ending
import WorkerPool.Proofs.Pool.Rejection

/-!
# Handles

The handle of a spawned task yields what is in the cell of its call. A task that ends leaves its outcome
there, and a call that fails leaves a failure and gives no handle. Nothing else is written to a cell: the
channel of a worker that leaves is empty, so no task is thrown away with it. A handle therefore yields
what its task has come to, and nothing before that.
-/

namespace WorkerPool

/-- What a handle yields on a task that has ended. -/
def Outcome.result {α : Type} : Outcome α → Except PoolError α
  | .returned v => .ok v
  | .panicked _ => .error .taskFailed

theorem Outcome.result_eq_ok_iff {α : Type} {outcome : Outcome α} {v : α} :
    outcome.result = .ok v ↔ outcome = .returned v := by
  cases outcome <;> simp [result]

theorem Outcome.result_eq_error_iff {α : Type} {outcome : Outcome α} {e : PoolError} :
    outcome.result = .error e ↔ e = .taskFailed ∧ ∃ payload, outcome = .panicked payload := by
  cases outcome <;> simp [result, eq_comm]

namespace Pool

variable {α : Type} {plan : Plan} {p q start : Pool α} {label : Label α} {labels : List (Label α)}
  {call thread slot task : Nat} {wakes : Option Nat} {past : List (Ending α)}

/-- What the handle of a call yields. -/
def result? (p : Pool α) (call : Nat) : Option (Except PoolError α) := p.cells[call]?.bind (·.result?)

inductive Writing (p : Pool α) (label : Label α) (q : Pool α) : Prop
  | nothing (quiet : p.endings label q = []) (cells : q.cells = p.cells)
  | invoke (quiet : p.endings label q = []) (cells : q.cells = p.cells ++ [.pending])
  | giveUp {call : Nat} {op : Op} {e : PoolError} (quiet : p.endings label q = [])
      (begins : p.begins call = 0) (failed : q.answers[call]? = some (op, some (.failed e)))
      (cells : q.cells = p.cells.set call .failed)
  | finish {ending : Ending α} (ends : p.endings label q = [ending])
      (executes : 0 < p.executions ending.task)
      (cells : q.cells = p.cells.set ending.task ending.outcome.cell)

theorem Move.cells (moves : p.Move label q) (accounted : Accounted p) (tokens : Tokens p) :
    Writing p label q := by
  cases moves with
  | pass | stirSweeper => exact .nothing rfl rfl
  | invoke => exact .invoke rfl List.map_append
  | @call call wakes old new r now moves =>
    rcases moves.cells with same | ⟨kept, e, rfl, written⟩
    · exact .nothing rfl ((cells_setPhase ..).trans same)
    · have unheard := accounted.unheard now kept
      obtain ⟨c, made, rfl⟩ := Option.map_eq_some_iff.mp now
      have answered : (r.setPhase call (.returned (.failed e))).answers[call]? =
          some (c.op, some (.failed e)) := by
        have seen := views_getElem? made fun op phase => (op, phase.answer?)
        rw [Pool.answers, moves.views_setPhase made fun _ => blind_answer]
        exact List.getElem?_set_self (List.getElem?_eq_some_iff.mp seen).1
      exact .giveUp rfl unheard.begins answered ((cells_setPhase ..).trans written)
  | thread now moves =>
    exact .nothing rfl ((cells_setPhase ..).trans moves.cells)
  | stir => exact .nothing rfl (cells_rouse ..)
  | worker now moves => exact .nothing rfl (moves.cells tokens now)
  | @finish thread outcome slot task now =>
    refine .finish (endings_finish now outcome) ?_ (cells_setCell ..)
    exact workersIn_pos now (beq_self_eq_true task)
  | sweeper now moves =>
    refine .nothing rfl ?_
    exact congrArg (fun calls : List (Call α) => calls.map (·.cell)) moves.calls

/-- The call of a task that has been begun has a cell. -/
theorem Accounted.lt_length_cells (h : Accounted p) (begun : 0 < p.begins task) :
    task < p.cells.length := by
  have delivered := h.delivered_of_begun begun
  have inside : task < (p.views Op.delivers).length :=
    lt_length_of_markAt (Nat.lt_of_lt_of_eq Nat.one_pos delivered.symm)
  simpa [views, Pool.cells] using inside

/-- The cell of a task that is over stays as it is. -/
theorem Writing.keeps (h : Writing p label q) (accounted : Accounted p)
    (spent : p.executions task < p.begins task) : q.cells[task]? = p.cells[task]? := by
  cases h with
  | nothing quiet cells => rw [cells]
  | invoke quiet cells =>
    rw [cells, List.getElem?_append_left (accounted.lt_length_cells (Nat.zero_lt_of_lt spent))]
  | @giveUp call op e quiet begins failed cells =>
    have different : call ≠ task := by
      rintro rfl
      omega
    rw [cells, List.getElem?_set_ne different]
  | @finish ending ends executes cells =>
    have different : ending.task ≠ task := by
      intro same
      have once := accounted.begins_le task
      rw [same] at executes
      omega
    rw [cells, List.getElem?_set_ne different]

/-- A task that ends leaves its outcome. -/
theorem Writing.leaves (h : Writing p label q) (accounted : Accounted p) {ending : Ending α}
    (member : ending ∈ p.endings label q) : q.cells[ending.task]? = some ending.outcome.cell := by
  cases h with
  | nothing quiet | invoke quiet | giveUp quiet =>
    rw [quiet] at member
    cases member
  | finish ends executes cells =>
    rw [ends] at member
    cases List.mem_singleton.mp member
    have begun := Nat.lt_of_lt_of_le executes (accounted.executed _)
    rw [cells, List.getElem?_set_self (accounted.lt_length_cells begun)]

/-- If the task of a call does not end, its cell stays, or the call is new, or it fails. -/
theorem Writing.others (h : Writing p label q)
    (others : ∀ ending ∈ p.endings label q, ending.task ≠ call) :
    q.cells[call]? = p.cells[call]? ∨ (p.cells[call]? = none ∧ q.cells[call]? = some .pending) ∨
      ∃ op e, q.answers[call]? = some (op, some (.failed e)) := by
  cases h with
  | nothing quiet cells => exact .inl (by rw [cells])
  | invoke quiet cells =>
    rw [cells, List.getElem?_append]
    by_cases old : call < p.cells.length
    · exact .inl (if_pos old)
    · by_cases new : call = p.cells.length
      · right
        left
        simp [new]
      · left
        have outside : p.cells.length ≤ call := Nat.le_of_not_lt old
        rw [if_neg old, List.getElem?_eq_none outside]
        exact List.getElem?_eq_none (by simp; omega)
  | @giveUp given op e quiet begins failed cells =>
    by_cases same : given = call
    · subst same
      exact .inr (.inr ⟨op, e, failed⟩)
    · exact .inl (by rw [cells, List.getElem?_set_ne same])
  | @finish ending ends executes cells =>
    have different : ending.task ≠ call := by
      apply others
      rw [ends]
      exact List.mem_singleton_self ending
    exact .inl (by rw [cells, List.getElem?_set_ne different])

structure Resolved (p : Pool α) (past : List (Ending α)) : Prop where
  ended : ∀ ending ∈ past, p.cells[ending.task]? = some ending.outcome.cell
  pending : ∀ (call : Nat) (cell : Cell α), p.cells[call]? = some cell → ends past call = 0 →
    cell = .pending ∨ ∃ op e, p.answers[call]? = some (op, some (.failed e))

theorem Resolved.move (h : Resolved p past) (moves : p.Move label q) (accounted : Accounted p)
    (tokens : Tokens p) (concluded : Concluded p past) :
    Resolved q (past ++ p.endings label q) := by
  have writing := moves.cells accounted tokens
  constructor
  · intro ending member
    rcases List.mem_append.mp member with before | new
    · rw [writing.keeps accounted (concluded.spent before), h.ended ending before]
    · exact writing.leaves accounted new
  · intro call cell made none
    rw [ends_append] at none
    obtain ⟨before, new⟩ := Nat.add_eq_zero_iff.mp none
    have others : ∀ ending ∈ p.endings label q, ending.task ≠ call := by
      intro ending member same
      have some := ends_pos_iff.mpr ⟨ending, member, same⟩
      omega
    rcases writing.others others with same | ⟨-, pending⟩ | failed
    · rcases h.pending call cell (same.symm.trans made) before with pending | ⟨op, e, failed⟩
      · exact .inl pending
      · exact .inr ⟨op, e, moves.answers failed⟩
    · exact .inl (Option.some.inj (made.symm.trans pending))
    · exact .inr failed

theorem Resolved.run (built : build plan true = .ok start) (ran : start.run labels = some p) :
    Resolved p (start.gather endings labels) := by
  -- That a cell is written once rests on the count of endings, so the two are carried along together.
  have both : Concluded p (start.gather endings labels) ∧ Resolved p (start.gather endings labels) := by
    apply gather_induction (P := fun p past => Concluded p past ∧ Resolved p past) built ran
    · refine ⟨fun task => rfl, ⟨?_, ?_⟩⟩
      · intro ending member
        cases member
      · intro call cell made
        cases made
    · intro r s label past reached h moves
      exact ⟨h.1.move moves, h.2.move moves reached.accounted reached.tokens h.1⟩
  exact both.2

theorem Resolved.result? (h : Resolved p past) {ending : Ending α} (member : ending ∈ past) :
    p.result? ending.task = some ending.outcome.result := by
  rw [Pool.result?, h.ended ending member]
  cases ending.outcome <;> rfl

theorem exists_cell {op : Op} {answer : Option Answer} (h : p.answers[call]? = some (op, answer)) :
    ∃ cell, p.cells[call]? = some cell := by
  unfold answers views at h
  rw [List.getElem?_map] at h
  obtain ⟨c, made, -⟩ := Option.map_eq_some_iff.mp h
  exact ⟨c.cell, by rw [Pool.cells, List.getElem?_map, made, Option.map_some]⟩

theorem Resolved.result?_of_not_ended (h : Resolved p past)
    (given : p.answers[call]? = some (.spawn, some .done)) (none : ends past call = 0) :
    p.result? call = .none := by
  obtain ⟨cell, made⟩ := exists_cell given
  rcases h.pending call cell made none with rfl | ⟨op, e, failed⟩
  · rw [Pool.result?, made]
    rfl
  · cases given.symm.trans failed

/-- The task of a call that has given a handle is not over, or has an ending that the handle yields. -/
theorem Resolved.handle (h : Resolved p past) (concluded : Concluded p past) (reached : Reachable plan p)
    (given : p.answers[call]? = some (.spawn, some .done)) :
    (ends past call = 0 ∧ p.result? call = none ∧ (Queued p call ∨ Underway p call)) ∨
    ∃ ending ∈ past, ending.task = call ∧ p.result? call = some ending.outcome.result ∧
      Finished p call := by
  by_cases none : ends past call = 0
  · left
    refine ⟨none, h.result?_of_not_ended given none, ?_⟩
    have all := concluded call
    rcases reached.stage (delivered_of_answers given) with queued | underway | finished
    · exact .inl queued
    · exact .inr underway
    · have spent := finished.spent
      omega
  · right
    obtain ⟨ending, member, rfl⟩ := ends_pos_iff.mp (Nat.pos_of_ne_zero none)
    exact ⟨ending, member, rfl, h.result? member, reached.accounted.finished (concluded.spent member)⟩

theorem Resolved.result?_eq_some_iff (h : Resolved p past) (concluded : Concluded p past)
    (reached : Reachable plan p) (given : p.answers[call]? = some (.spawn, some .done))
    (result : Except PoolError α) :
    p.result? call = some result ↔ ∃ ending ∈ past, ending.task = call ∧ ending.outcome.result = result := by
  constructor
  · intro yields
    rcases h.handle concluded reached given with ⟨-, none, -⟩ | ⟨ending, member, same, some, -⟩
    · cases none.symm.trans yields
    · exact ⟨ending, member, same, Option.some.inj (some.symm.trans yields)⟩
  · rintro ⟨ending, member, rfl, rfl⟩
    exact h.result? member

/-- What has ended stays in the cells. -/
theorem Leads.resolved (led : p.Leads q) (reached : Reachable plan p) (h : Resolved p past)
    (concluded : Concluded p past) :
    ∃ more, Concluded q (past ++ more) ∧ Resolved q (past ++ more) := by
  refine led.induction (P := fun q => ∃ more, Concluded q (past ++ more) ∧ Resolved q (past ++ more)) ?_ ?_
  · refine ⟨[], ?_⟩
    rw [List.append_nil]
    exact ⟨concluded, h⟩
  · rintro r s label before ⟨more, concluded, h⟩ moves
    have reached := reached.leads before
    refine ⟨more ++ r.endings label s, ?_⟩
    rw [← List.append_assoc]
    exact ⟨concluded.move moves, h.move moves reached.accounted reached.tokens concluded⟩

theorem Finished.not_before (h : Finished p task) : ¬(Queued p task ∨ Underway p task) := by
  rintro (queued | underway)
  · cases h.begins.symm.trans queued.begins
  · cases h.executions.symm.trans underway.executions

/-- A handle yields nothing as long as its task is not over, and something from then on. -/
theorem Resolved.result?_stage (h : Resolved p past) (concluded : Concluded p past)
    (reached : Reachable plan p) (given : p.answers[call]? = some (.spawn, some .done)) :
    (p.result? call = none ↔ Queued p call ∨ Underway p call) ∧
      (p.result? call ≠ none ↔ Finished p call) := by
  rcases h.handle concluded reached given with ⟨-, none, before⟩ | ⟨ending, _, _, yields, finished⟩
  · have unfinished : ¬Finished p call := fun finished => finished.not_before before
    simp [none, before, unfinished]
  · simp [yields, finished, finished.not_before]

/-- Only the end of its task changes what a handle yields. -/
theorem Move.result? (moves : p.Move label q) (accounted : Accounted p) (tokens : Tokens p)
    (given : p.answers[call]? = some (.spawn, some .done))
    (others : ∀ ending ∈ p.endings label q, ending.task ≠ call) : q.result? call = p.result? call := by
  obtain ⟨cell, made⟩ := exists_cell given
  rcases (moves.cells accounted tokens).others others with same | ⟨absent, -⟩ | ⟨op, e, failed⟩
  · rw [Pool.result?, same, Pool.result?]
  · cases made.symm.trans absent
  · cases (moves.answers given).symm.trans failed

/-- The handle of a spawned task yields the value that the task has returned, or that it has panicked,
and it yields nothing exactly as long as the task is queued or executed. What it yields stays, and no
step but the end of the task has a part in it. -/
theorem handles_faithful (built : build plan true = .ok start) (ran : start.run labels = some p)
    (given : p.answers[call]? = some (.spawn, some .done)) :
    (∀ v, p.result? call = some (.ok v) ↔ ∃ ending ∈ start.gather endings labels,
      ending.task = call ∧ ending.outcome = .returned v) ∧
    (∀ e, p.result? call = some (.error e) ↔ e = .taskFailed ∧ ∃ ending ∈ start.gather endings labels,
      ending.task = call ∧ ∃ payload, ending.outcome = .panicked payload) ∧
    (p.result? call = none ↔ Queued p call ∨ Underway p call) ∧
    (p.result? call ≠ none ↔ Finished p call) ∧
    ends (start.gather endings labels) call ≤ 1 ∧
    (∀ q, p.Leads q → ∀ result, p.result? call = some result → q.result? call = some result) ∧
    ∀ label q, p.step label = some q → (∀ ending ∈ p.endings label q, ending.task ≠ call) →
      q.result? call = p.result? call := by
  have reached : Reachable plan p := ⟨start, labels, built, ran⟩
  have accounted := reached.accounted
  have tokens := reached.tokens
  have concluded := Concluded.run built ran
  have resolved := Resolved.run built ran
  have yields := resolved.result?_eq_some_iff concluded reached given
  have stage := resolved.result?_stage concluded reached given
  refine ⟨?_, ?_, stage.1, stage.2, concluded.ends_le accounted call, ?_, ?_⟩
  · intro v
    simp only [yields, Outcome.result_eq_ok_iff]
  · intro e
    simp only [yields, Outcome.result_eq_error_iff]
    constructor
    · rintro ⟨ending, member, same, failed, panicked⟩
      exact ⟨failed, ending, member, same, panicked⟩
    · rintro ⟨failed, ending, member, same, panicked⟩
      exact ⟨ending, member, same, failed, panicked⟩
  · intro q led result some
    obtain ⟨more, later, holds⟩ := led.resolved reached resolved concluded
    obtain ⟨ending, member, rfl, rfl⟩ := (yields result).mp some
    exact holds.result? (List.mem_append_left more member)
  · intro label q stepped others
    exact (Move.of_step stepped).result? accounted tokens given others

/-- The pool is released while one task is queued and another has returned. -/
theorem handles_faithful_across_release : ∃ p q : Pool Nat, Reachable { capacity := 2 } p ∧ p.Leads q ∧
    p.closed = true ∧ p.result? 0 = some (.ok 7) ∧ Queued p 1 ∧ p.result? 1 = none ∧
    q.result? 0 = some (.ok 7) ∧ Finished q 1 ∧ q.result? 1 = some (.error .taskFailed) := by
  let spawning (call thread : Nat) : List (Label Nat) := .invoke .spawn :: (hiring call thread).tail
  let labels : List (Label Nat) :=
    spawning 0 0 ++ .finish 0 (.returned 7) :: (spawning 1 1).take 8 ++ [.invoke .release, .call 2 none]
  let more : List (Label Nat) := [.worker 1 none, .worker 1 none, .finish 1 (.panicked .opaqueValue)]
  obtain ⟨start, built⟩ : ∃ start : Pool Nat, build { capacity := 2 } true = .ok start := ⟨_, rfl⟩
  have seen : (start.run labels).any (fun p => p.closed = true ∧
      p.answers = [(.spawn, some .done), (.spawn, some .done), (.release, none)] ∧ p.begins 1 = 0 ∧
      ⟨0, 0, .returned 7⟩ ∈ start.gather endings labels ∧
      (p.run more).any fun _ =>
        ⟨1, 1, .panicked .opaqueValue⟩ ∈ start.gather endings (labels ++ more)) = true := by
    cases built
    decide
  obtain ⟨p, ran, seen⟩ := (Option.any_eq_true _ _).mp seen
  obtain ⟨closed, answers, waits, returned, seen⟩ := of_decide_eq_true seen
  obtain ⟨q, further, panicked⟩ := (Option.any_eq_true _ _).mp seen
  have panicked := of_decide_eq_true panicked
  have led : p.Leads q := ⟨more, further⟩
  have all : start.run (labels ++ more) = some q := by rw [run_append, ran]; exact further
  have given (call : Nat) (spawned : call < 2) : p.answers[call]? = some (.spawn, some .done) := by
    rw [answers]
    match call with
    | 0 | 1 => rfl
  obtain ⟨value, -, -, -, -, stays, -⟩ := handles_faithful built ran (given 0 (by decide))
  obtain ⟨-, -, pending, -, -, -, -⟩ := handles_faithful built ran (given 1 (by decide))
  obtain ⟨-, failure, -, final, -, -, -⟩ := handles_faithful built all (led.answers (given 1 (by decide)))
  have first := (value 7).mpr ⟨_, returned, rfl, rfl⟩
  have second := (failure .taskFailed).mpr ⟨rfl, _, panicked, rfl, _, rfl⟩
  have queued : Queued p 1 := by
    have reached : Reachable { capacity := 2 } p := ⟨start, labels, built, ran⟩
    exact reached.queued_of_not_begun (delivered_of_answers (given 1 (by decide))) waits
  refine ⟨p, q, ⟨start, labels, built, ran⟩, led, closed, first, queued, pending.mpr (.inl queued),
    stays q led _ first, final.mp ?_, second⟩
  rw [second]
  exact Option.some_ne_none _

end Pool
end WorkerPool
