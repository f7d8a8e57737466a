import WorkerPool.Proofs.Pool.Handover
import WorkerPool.Proofs.Pool.Queue

/-!
# Exactly-once execution

A task that a call has handed over is in the channel of one worker until it is begun, and it is begun
once. The calls, the channels and the tasks begun are accounted for together: a task is queued and
begun as often as it has been handed over, and it is executed from its begin until its handle has
been settled.
-/

namespace WorkerPool

def Op.isTask : Op → Bool
  | .submit | .spawn => true
  | _ => false

def Op.admits (op : Op) : Phase → Bool
  | .closing | .wakingSubmitters _ | .wakingSweepers _ => op == .release
  | .reopening | .reopened _ | .returned (.failed .notReleased) => op == .restart
  | .countingIdle | .countingSlots .. | .countingRunning .. | .returned (.stats _) => op == .stats
  | .returned .done => op != .stats
  | .returned (.failed .closed) => op.isTask
  | .returned (.failed (.spawn reason)) => reason == refusalReason && (op.isTask || op == .restart)
  | .returned (.failed _) => false
  | _ => op.isTask

/-- Whether a call has handed its task over. -/
def Op.delivers (op : Op) : Phase → Bool
  | .handedOver => true
  | .returned .done => op.isTask
  | _ => false

theorem Op.error_of_admits {op : Op} {e : PoolError} (brings : op.isTask = true)
    (h : op.admits (.returned (.failed e)) = true) : e = .closed ∨ e = .spawn refusalReason := by
  cases e with
  | closed => exact .inl rfl
  | spawn reason =>
    have known := (Bool.and_eq_true_iff.mp h).1
    exact .inr (congrArg _ (beq_iff_eq.mp known))
  | notReleased =>
    cases op <;> first | exact absurd h Bool.false_ne_true | exact absurd brings Bool.false_ne_true
  | _ => cases h

def Phase.isHandedOver : Phase → Bool
  | .handedOver => true
  | _ => false

def WorkerPhase.executes (task : Nat) : WorkerPhase → Bool
  | .executing t => t == task
  | _ => false

def Cell.isSettled {α : Type} : Cell α → Bool
  | .pending => false
  | _ => true

/-- The number that a list of answers counts at a position. -/
def markAt (l : List Bool) (i : Nat) : Nat := (l[i]?.getD false).toNat

theorem markAt_set {l : List Bool} {i : Nat} {a : Bool} (h : l[i]? = some a) (b : Bool) (j : Nat) :
    markAt (l.set i b) j = if i = j then b.toNat else markAt l j := by
  unfold markAt
  rw [List.getElem?_set]
  split
  · obtain ⟨inside, -⟩ := List.getElem?_eq_some_iff.mp h
    simp [inside]
  · rfl

theorem markAt_of_getElem? {l : List Bool} {i : Nat} {a : Bool} (h : l[i]? = some a) :
    markAt l i = a.toNat := by
  rw [markAt, h]
  rfl

theorem markAt_le (l : List Bool) (i : Nat) : markAt l i ≤ 1 := Bool.toNat_le _

theorem lt_length_of_markAt {l : List Bool} {i : Nat} (h : 0 < markAt l i) : i < l.length := by
  apply Nat.lt_of_not_le
  intro outside
  rw [markAt, List.getElem?_eq_none outside] at h
  cases h

theorem markAt_set_le (l : List Bool) (i j : Nat) : markAt l j ≤ markAt (l.set i true) j := by
  unfold markAt
  rw [List.getElem?_set]
  split
  · rename_i same
    subst same
    by_cases inside : i < l.length
    · simp only [inside, ↓reduceIte, Option.getD_some, Bool.toNat_true]
      exact Bool.toNat_le _
    · simp [inside]
  · exact Nat.le_refl _

theorem markAt_set_self {l : List Bool} {i : Nat} (h : i < l.length) : markAt (l.set i true) i = 1 := by
  simp [markAt, h]

theorem markAt_concat (l : List Bool) (i : Nat) : markAt (l ++ [false]) i = markAt l i := by
  unfold markAt
  rw [List.getElem?_append]
  split
  · rfl
  · rename_i outside
    rw [List.getElem?_eq_none (Nat.le_of_not_lt outside)]
    cases i - l.length <;> simp

theorem all_set {l : List Bool} {i : Nat} {b : Bool} (h : ∀ a ∈ l, a = true) (new : b = true) :
    ∀ a ∈ l.set i b, a = true := by
  intro a member
  rcases List.mem_or_eq_of_mem_set member with before | rfl
  · exact h a before
  · exact new

namespace Pool

variable {α : Type} {plan : Plan} {p q : Pool α} {call thread slot task : Nat} {wakes : Option Nat}

/-- How often a task has been begun. -/
def begins (p : Pool α) (task : Nat) : Nat := (p.begun.map (·.1)).count task

/-- Number of workers that execute a task. -/
def executions (p : Pool α) (task : Nat) : Nat := p.workersIn (·.phase.executes task)

/-- Whether a task has been handed over, as a number. -/
def delivered (p : Pool α) (task : Nat) : Nat := markAt (p.views Op.delivers) task

def cells (p : Pool α) : List (Cell α) := p.calls.map (·.cell)

/-- For each call whether its handle has been settled. -/
def settled (p : Pool α) : List Bool := p.cells.map (·.isSettled)

structure Accounted (p : Pool α) : Prop where
  proper : ∀ admitted ∈ p.views Op.admits, admitted = true
  begun : ∀ task, p.slots.queued task + p.begins task = p.delivered task
  executed : ∀ task, p.executions task ≤ p.begins task
  settled : ∀ task, p.begins task ≤ p.executions task + markAt p.settled task

theorem blind_admits : Blind Op.admits := fun _ phase => by cases phase <;> rfl

theorem blind_delivers : Blind Op.delivers := fun _ phase => by cases phase <;> rfl

@[simp] theorem cells_setPhase (p : Pool α) (call : Nat) (new : Phase) :
    (p.setPhase call new).cells = p.cells := by
  apply map_modify_of_eq
  intro c
  rfl

@[simp] theorem cells_rouse (p : Pool α) (call : Nat) : (p.rouse call).cells = p.cells := by
  apply map_modify_of_eq
  intro c
  rfl

@[simp] theorem cells_setCell (p : Pool α) (task : Nat) (cell : Cell α) :
    (p.setCell task cell).cells = p.cells.set task cell := by
  apply List.ext_getElem?
  intro other
  simp only [cells, setCell, List.getElem?_map, List.getElem?_modify, List.getElem?_set, List.length_map]
  by_cases same : task = other
  · subst same
    by_cases inside : task < p.calls.length <;> simp [inside]
  · simp [same]

@[simp] theorem cells_wakeSubmitters (p : Pool α) : p.wakeSubmitters.cells = p.cells := by
  simp [cells, wakeSubmitters]

theorem cells_wakeOne (woke : p.wakeOne wakes = some q) : q.cells = p.cells := by
  rcases wakeOne_cases woke with ⟨-, rfl⟩ | ⟨other, -, rfl⟩
  · rfl
  · exact cells_rouse p other

theorem settled_of_cells (same : q.cells = p.cells) : q.settled = p.settled := by
  rw [settled, same, settled]

theorem settled_of_set {cell : Cell α} (ends : cell.isSettled = true)
    (written : q.cells = p.cells.set task cell) : q.settled = p.settled.set task true := by
  rw [settled, written, List.map_set, ends, settled]

section Moves

variable {op : Op} {old new : Phase}

theorem CallMove.admits (moves : CallMove p call wakes old new q) (h : op.admits old = true) :
    op.admits new = true := by
  cases moves <;> cases op <;> first | rfl | cases h

theorem ThreadMove.admits {granted : Bool} (moves : ThreadMove p granted old new q)
    (h : op.admits old = true) : op.admits new = true := by
  cases moves <;> cases op <;> first | rfl | cases h

theorem CallMove.delivers (moves : CallMove p call wakes old new q) (h : op.admits old = true) :
    (op.delivers new).toNat = (op.delivers old).toNat + new.isHandedOver.toNat := by
  cases moves <;> cases op <;> first | rfl | cases h

theorem ThreadMove.delivers {granted : Bool} (moves : ThreadMove p granted old new q)
    (h : op.admits old = true) : op.delivers new = op.delivers old := by
  cases moves <;> cases op <;> first | rfl | cases h

theorem CallMove.queued (moves : CallMove p call wakes old new q) (task : Nat) :
    q.slots.queued task = p.slots.queued task + (new.isHandedOver && call == task).toNat := by
  cases moves with
  | take => exact Slots.messages_take rfl _
  | hand sent =>
    have queued := Slots.messages_send sent (· == .run task)
    rw [Message.run_beq] at queued
    exact queued
  | close opened stopped => exact messages_stopAll rfl stopped
  | _ => rfl

theorem CallMove.begun (moves : CallMove p call wakes old new q) : q.begun = p.begun := by
  cases moves <;> rfl

/-- A call writes to a cell only when it fails, to its own. -/
theorem CallMove.cells (moves : CallMove p call wakes old new q) :
    q.cells = p.cells ∨ (∀ op : Op, op.delivers old = false) ∧ ∃ e, new = .returned (.failed e) ∧
      q.cells = p.cells.set call .failed := by
  cases moves with
  | reject | lose =>
    right
    refine ⟨fun op => by cases op <;> rfl, .closed, rfl, ?_⟩
    exact cells_setCell ..
  | passOn woke =>
    right
    refine ⟨fun op => by cases op <;> rfl, _, rfl, ?_⟩
    rw [cells_setCell, ← cells_wakeOne woke]
    rfl
  | wakeSubmitters => exact .inl (cells_wakeSubmitters p)
  | _ => exact .inl rfl

theorem CallMove.settled (moves : CallMove p call wakes old new q) (task : Nat) :
    markAt p.settled task ≤ markAt q.settled task := by
  rcases moves.cells with same | ⟨-, e, -, written⟩
  · exact Nat.le_of_eq (by rw [settled_of_cells same])
  · rw [settled_of_set rfl written]
    exact markAt_set_le ..

theorem Accounted.admits {c : Call α} (h : Accounted p) (made : p.calls[call]? = some c) :
    c.op.admits c.phase = true :=
  h.proper _ (List.mem_of_getElem? (views_getElem? made Op.admits))

theorem Accounted.callMove (h : Accounted p) (now : p.phase? call = some old)
    (moves : CallMove p call wakes old new q) : Accounted (q.setPhase call new) := by
  obtain ⟨c, made, rfl⟩ := Option.map_eq_some_iff.mp now
  have admitted := h.admits made
  have begins (task : Nat) : (q.setPhase call new).begins task = p.begins task :=
    congrArg (fun begun => (begun.map (·.1)).count task) moves.begun
  have executions (task : Nat) : (q.setPhase call new).executions task = p.executions task :=
    moves.workersIn _
  refine ⟨?_, fun task => ?_, fun task => ?_, fun task => ?_⟩
  · rw [moves.views_setPhase made fun _ => blind_admits]
    exact all_set h.proper (moves.admits admitted)
  · have before := h.begun task
    have queued := moves.queued task
    have delivers := moves.delivers admitted
    have mark := markAt_of_getElem? (views_getElem? made Op.delivers)
    rw [begins, delivered, moves.views_setPhase made fun _ => blind_delivers,
      markAt_set (views_getElem? made _)]
    change q.slots.queued task + _ = _
    unfold delivered at before
    by_cases same : call = task
    · subst same
      rw [if_pos rfl]
      simp only [beq_self_eq_true, Bool.and_true] at queued
      omega
    · rw [if_neg same]
      simp only [beq_false_of_ne same, Bool.and_false, Bool.toNat_false] at queued
      omega
  · rw [begins, executions]
    exact h.executed task
  · rw [begins, executions, settled_of_cells (cells_setPhase ..)]
    have before := h.settled task
    have after := moves.settled task
    omega

theorem ThreadMove.queued {granted : Bool} (moves : ThreadMove p granted old new q) (h : Tokens p)
    (now : p.phase? call = some old) (task : Nat) : q.slots.queued task = p.slots.queued task := by
  cases moves with
  | @refuse slot => exact Slots.messages_hangUp (h.channel_of_holds now (beq_self_eq_true slot)) _
  | _ => rfl

theorem ThreadMove.begun {granted : Bool} (moves : ThreadMove p granted old new q) :
    q.begun = p.begun := by
  cases moves <;> rfl

theorem ThreadMove.cells {granted : Bool} (moves : ThreadMove p granted old new q) :
    q.cells = p.cells := by
  cases moves <;> rfl

theorem ThreadMove.executions {granted : Bool} (moves : ThreadMove p granted old new q) (task : Nat) :
    q.executions task = p.executions task := by
  have workers := moves.workersIn (·.phase.executes task)
  have beginner : new.hired.any (·.phase.executes task) = false := by cases moves <;> rfl
  rw [beginner] at workers
  exact workers

theorem Accounted.threadMove {granted : Bool} (h : Accounted p) (tokens : Tokens p)
    (now : p.phase? call = some old) (moves : ThreadMove p granted old new q) :
    Accounted (q.setPhase call new) := by
  have queued := moves.queued tokens now
  obtain ⟨c, made, rfl⟩ := Option.map_eq_some_iff.mp now
  have admitted := h.admits made
  have begins (task : Nat) : (q.setPhase call new).begins task = p.begins task :=
    congrArg (fun begun => (begun.map (·.1)).count task) moves.begun
  have executions (task : Nat) : (q.setPhase call new).executions task = p.executions task :=
    moves.executions task
  have settled : (q.setPhase call new).settled = p.settled :=
    settled_of_cells ((cells_setPhase q call new).trans moves.cells)
  have delivered (task : Nat) : (q.setPhase call new).delivered task = p.delivered task := by
    have mark := views_getElem? made Op.delivers
    rw [Pool.delivered, moves.views_setPhase made, moves.delivers admitted, markAt_set mark]
    split
    · rename_i same
      rw [← same]
      exact (markAt_of_getElem? mark).symm
    · rfl
  refine ⟨?_, fun task => ?_, fun task => ?_, fun task => ?_⟩
  · rw [moves.views_setPhase made]
    exact all_set h.proper (moves.admits admitted)
  · rw [begins, delivered, ← h.begun task, ← queued]
    rfl
  · rw [begins, executions]
    exact h.executed task
  · rw [begins, executions, settled]
    exact h.settled task

end Moves

section Moves

variable {old new : WorkerPhase}

theorem putSlot_of_empty (empty : p.slots.pending slot = 0) :
    p.putSlot slot = { p with slots := p.slots.put slot } := by
  have nothing := List.length_eq_zero_iff.mp empty
  simp only [putSlot, nothing]
  rfl

theorem WorkerMove.queued (moves : WorkerMove p slot wakes old new q) (h : Tokens p)
    (now : p.workers[thread]? = some ⟨slot, old⟩) (task : Nat) :
    q.slots.queued task + (new.executes task).toNat = p.slots.queued task := by
  cases moves with
  | execute got =>
    have queued := Slots.messages_receive got (· == .run task)
    rw [Message.run_beq] at queued
    exact queued
  | stop got => exact Slots.messages_receive got (· == .run task)
  | giveSlot => exact Slots.messages_put (h.pending_of_retiring now) _
  | fall => exact Slots.messages_hangUp (h.channel_of_busy now (beq_self_eq_true slot)) _
  | _ => rfl

theorem WorkerMove.begins (moves : WorkerMove p slot wakes old new q) (task : Nat) :
    q.begins task = p.begins task + (new.executes task).toNat := by
  cases moves with
  | execute got => exact count_cons_toNat ..
  | _ => rfl

theorem WorkerMove.cells (moves : WorkerMove p slot wakes old new q) (tokens : Tokens p)
    (now : p.workers[thread]? = some ⟨slot, old⟩) : q.cells = p.cells := by
  cases moves with
  | park opened woke | leave woke =>
    have same := cells_wakeOne woke
    exact same
  | giveSlot drained =>
    have emptied := putSlot_of_empty (tokens.pending_of_retiring now)
    have same := congrArg Pool.cells (drained.symm.trans emptied)
    exact same
  | _ => rfl

theorem Accounted.workerMove (h : Accounted p) (tokens : Tokens p)
    (now : p.workers[thread]? = some ⟨slot, old⟩) (moves : WorkerMove p slot wakes old new q) :
    Accounted (q.setWorker thread new) := by
  have executions (task : Nat) : (q.setWorker thread new).executions task =
      p.executions task + (new.executes task).toNat := by
    have idle : old.executes task = false := by cases moves <;> rfl
    have workers := moves.workersIn (·.executes task) now
    rw [idle] at workers
    exact workers
  refine ⟨?_, fun task => ?_, fun task => ?_, fun task => ?_⟩
  · change ∀ admitted ∈ q.views Op.admits, _
    rw [moves.views fun _ => blind_admits]
    exact h.proper
  · have begun := h.begun task
    have queued := moves.queued tokens now task
    have begins := moves.begins task
    have delivered : q.delivered task = p.delivered task :=
      congrArg (markAt · task) (moves.views fun _ => blind_delivers)
    change q.slots.queued task + q.begins task = q.delivered task
    omega
  · have executed := h.executed task
    have begins := moves.begins task
    rw [executions]
    change _ ≤ q.begins task
    omega
  · have settled := h.settled task
    have begins := moves.begins task
    rw [executions]
    change q.begins task ≤ _ + markAt q.settled task
    rw [settled_of_cells (moves.cells tokens now)]
    omega

end Moves

theorem SweeperMove.queued {epoch : Nat} {old new : SweeperPhase}
    (moves : SweeperMove p epoch old new q) (task : Nat) :
    q.slots.queued task = p.slots.queued task := by
  cases moves with
  | evict opened current due late stopped => exact messages_stopAll rfl stopped
  | _ => rfl

theorem Accounted.sweeperMove {epoch : Nat} {old new : SweeperPhase} (h : Accounted p)
    (moves : SweeperMove p epoch old new q) : Accounted (q.setSweeper thread new) := by
  refine ⟨?_, fun task => ?_, fun task => ?_, fun task => ?_⟩
  · have proper := h.proper
    cases moves <;> exact proper
  · have begun := h.begun task
    rw [← moves.queued] at begun
    cases moves <;> exact begun
  · have executed := h.executed task
    cases moves <;> exact executed
  · have settled := h.settled task
    cases moves <;> exact settled

theorem Accounted.invoke (h : Accounted p) (op : Op) :
    Accounted ({ p with calls := p.calls ++ [{ op, phase := op.firstPhase }] } : Pool α) := by
  have views (view : Op → Phase → Bool) :
      ({ p with calls := p.calls ++ [{ op, phase := op.firstPhase }] } : Pool α).views view =
        p.views view ++ [view op op.firstPhase] := List.map_append
  have settled : ({ p with calls := p.calls ++ [{ op, phase := op.firstPhase }] } : Pool α).settled =
      p.settled ++ [false] := by simp [Pool.settled, Pool.cells, Cell.isSettled]
  refine ⟨?_, fun task => ?_, h.executed, fun task => ?_⟩
  · rw [views]
    intro admitted member
    rcases List.mem_append.mp member with before | last
    · exact h.proper admitted before
    · rw [List.mem_singleton.mp last]
      cases op <;> rfl
  · have nothing : op.delivers op.firstPhase = false := by cases op <;> rfl
    rw [delivered, views, nothing, markAt_concat]
    exact h.begun task
  · rw [settled, markAt_concat]
    exact h.settled task

theorem Accounted.stir (h : Accounted p) (call : Nat) : Accounted (p.rouse call) := by
  refine ⟨?_, fun task => ?_, h.executed, fun task => ?_⟩
  · rw [views_rouse blind_admits]
    exact h.proper
  · rw [delivered, views_rouse blind_delivers]
    exact h.begun task
  · rw [settled_of_cells (cells_rouse ..)]
    exact h.settled task

theorem Accounted.begins_le (h : Accounted p) (task : Nat) : p.begins task ≤ 1 := by
  have begun := h.begun task
  have delivered : p.delivered task ≤ 1 := markAt_le ..
  omega

theorem executions_finish {task : Nat} (now : p.workers[thread]? = some ⟨slot, .executing task⟩)
    (outcome : Outcome α) (other : Nat) :
    ((p.setCell task outcome.cell).setWorker thread outcome.aftermath).executions other +
      (task == other).toNat = p.executions other := by
  have idle : outcome.aftermath.executes other = false := by cases outcome <;> rfl
  have workers := workersIn_finish (·.executes other) outcome now
  rw [idle] at workers
  exact workers

/-- A task that ends has been begun once, and its handle is settled from now on. -/
theorem Accounted.finish {slot task : Nat} (h : Accounted p)
    (now : p.workers[thread]? = some ⟨slot, .executing task⟩) (outcome : Outcome α) :
    Accounted ((p.setCell task outcome.cell).setWorker thread outcome.aftermath) := by
  have ended : outcome.cell.isSettled = true := by cases outcome <;> rfl
  have executions := executions_finish now outcome
  refine ⟨?_, fun other => ?_, fun other => ?_, fun other => ?_⟩
  · change ∀ admitted ∈ (p.setCell task outcome.cell).views Op.admits, _
    rw [views_setCell]
    exact h.proper
  · change _ = (p.setCell task outcome.cell).delivered other
    rw [delivered, views_setCell]
    exact h.begun other
  · have executed := h.executed other
    have fewer := executions other
    change _ ≤ p.begins other
    omega
  · have settled := h.settled other
    have fewer := executions other
    change p.begins other ≤ _ + markAt (p.setCell task outcome.cell).settled other
    rw [settled_of_set ended (cells_setCell ..)]
    -- Only the mark of the task itself makes up for the execution that has ended.
    by_cases same : task = other
    · subst same
      have one := h.begins_le task
      have executed := h.executed task
      have begun := h.begun task
      have inside : task < p.settled.length := by
        have marked : 0 < p.delivered task := by
          rw [beq_self_eq_true, Bool.toNat_true] at fewer
          omega
        have known := lt_length_of_markAt marked
        simpa [views, Pool.settled, Pool.cells] using known
      rw [markAt_set_self inside]
      omega
    · have more := markAt_set_le p.settled task other
      rw [beq_false_of_ne same, Bool.toNat_false] at fewer
      omega

theorem Accounted.move {label : Label α} (h : Accounted p) (tokens : Tokens p)
    (moves : p.Move label q) : Accounted q := by
  cases moves with
  | pass | stirSweeper => exact ⟨h.proper, h.begun, h.executed, h.settled⟩
  | invoke => exact h.invoke _
  | call now moves => exact h.callMove now moves
  | thread now moves => exact h.threadMove tokens now moves
  | stir => exact h.stir _
  | worker now moves => exact h.workerMove tokens now moves
  | finish now => exact h.finish now _
  | sweeper now moves => exact h.sweeperMove moves

theorem Reachable.accounted (reached : Reachable plan p) : Accounted p := by
  have start : Accounted (fresh α plan) :=
    ⟨fun _ none => (List.not_mem_nil none).elim, fun _ => rfl, fun _ => Nat.le_refl _,
      fun _ => Nat.le_refl _⟩
  exact reached.induction (P := Accounted) (fun _ => start) fun before h moves =>
    h.move before.tokens moves

theorem CallMove.unanswered {old new : Phase} (moves : CallMove p call wakes old new q) :
    old.answer? = none := by
  cases moves <;> rfl

theorem ThreadMove.unanswered {granted : Bool} {old new : Phase}
    (moves : ThreadMove p granted old new q) : old.answer? = none := by
  cases moves <;> rfl

theorem blind_answer : Blind fun op phase => (op, phase.answer?) := fun _ phase => by
  cases phase <;> rfl

/-- The operation of each call, with its answer once it has returned. -/
def answers (p : Pool α) : List (Op × Option Answer) := p.views fun op phase => (op, phase.answer?)

/-- What a call has returned stays. -/
theorem Move.answers {label : Label α} {op : Op} {answer : Answer} (moves : p.Move label q)
    (h : p.answers[call]? = some (op, some answer)) : q.answers[call]? = some (op, some answer) := by
  have other {c : Call α} {mover : Nat} {phase : Phase} (made : p.calls[mover]? = some c)
      (unanswered : c.phase.answer? = none) :
      (p.answers.set mover (c.op, phase.answer?))[call]? = some (op, some answer) := by
    rw [List.getElem?_set_ne, h]
    rintro rfl
    have seen := views_getElem? made fun op phase => (op, phase.answer?)
    rw [Pool.answers, seen, unanswered] at h
    cases h
  cases moves with
  | pass | stirSweeper => exact h
  | invoke =>
    obtain ⟨inside, -⟩ := List.getElem?_eq_some_iff.mp h
    rw [Pool.answers, views, List.map_append]
    exact (List.getElem?_append_left inside).trans h
  | call now moves =>
    obtain ⟨c, made, rfl⟩ := Option.map_eq_some_iff.mp now
    rw [Pool.answers, moves.views_setPhase made fun _ => blind_answer]
    exact other made moves.unanswered
  | thread now moves =>
    obtain ⟨c, made, rfl⟩ := Option.map_eq_some_iff.mp now
    rw [Pool.answers, moves.views_setPhase made]
    exact other made moves.unanswered
  | stir =>
    rw [Pool.answers, views_rouse blind_answer]
    exact h
  | worker now moves => exact (congrArg (·[call]?) (moves.views fun _ => blind_answer)).trans h
  | finish => exact (congrArg (·[call]?) (views_setCell ..)).trans h
  | sweeper now moves =>
    rw [← h]
    exact congrArg (fun calls : List (Call α) => (calls.map _)[call]?) moves.calls

theorem Leads.answers {op : Op} {answer : Answer} (led : p.Leads q)
    (h : p.answers[call]? = some (op, some answer)) : q.answers[call]? = some (op, some answer) :=
  led.induction (P := fun q => q.answers[call]? = some (op, some answer)) h fun _ h moves =>
    moves.answers h

theorem answers_of_returned {c : Call α} {answer : Answer} (made : p.calls[call]? = some c)
    (returned : c.phase = .returned answer) : p.answers[call]? = some (c.op, some answer) := by
  rw [answers, views_getElem? made, returned]
  rfl

theorem delivered_of_answers {op : Op} {answer : Answer}
    (h : p.answers[call]? = some (op, some answer)) :
    p.delivered call = (op.delivers (.returned answer)).toNat := by
  unfold answers views at h
  rw [List.getElem?_map] at h
  obtain ⟨c, made, eq⟩ := Option.map_eq_some_iff.mp h
  obtain ⟨rfl, returned⟩ := Prod.mk.inj eq
  have phase : c.phase = .returned answer := by
    cases phase : c.phase <;> rw [phase] at returned <;> cases returned
    rfl
  rw [delivered, markAt_of_getElem? (views_getElem? made _), phase]

/-- A task that has not been begun is in the channel of one worker, which listens. -/
structure Queued (p : Pool α) (task : Nat) : Prop where
  begins : p.begins task = 0
  executions : p.executions task = 0
  channel : ∃ slot, p.live slot = 1 ∧ p.listeners slot = 1 ∧
    (p.slots.channel slot).queue = [.run task] ∧
    ∀ other, .run task ∈ (p.slots.channel other).queue → other = slot

/-- A task that has been begun and is not over is executed by one worker. -/
structure Underway (p : Pool α) (task : Nat) : Prop where
  begins : p.begins task = 1
  executions : p.executions task = 1
  channel : ∀ slot, .run task ∉ (p.slots.channel slot).queue

/-- A task that is over has been begun once, and its handle has been settled. -/
structure Finished (p : Pool α) (task : Nat) : Prop where
  begins : p.begins task = 1
  executions : p.executions task = 0
  channel : ∀ slot, .run task ∉ (p.slots.channel slot).queue
  settled : ∃ c, p.calls[task]? = some c ∧ c.cell.isSettled = true

theorem exists_settled (h : 0 < markAt p.settled task) :
    ∃ c, p.calls[task]? = some c ∧ c.cell.isSettled = true := by
  unfold markAt settled cells at h
  rw [List.map_map, List.getElem?_map] at h
  cases made : p.calls[task]? with
  | none =>
    rw [made] at h
    cases h
  | some c =>
    rw [made] at h
    cases settled : c.cell.isSettled with
    | true => exact ⟨c, rfl, settled⟩
    | false =>
      rw [Option.map_some, Function.comp_apply, settled] at h
      cases h

theorem Accounted.not_mem_of_begun (h : Accounted p) (begun : p.begins task = p.delivered task)
    (slot : Nat) : .run task ∉ (p.slots.channel slot).queue := by
  intro member
  have queued := Slots.queued_pos_of_mem member
  have account := h.begun task
  omega

theorem Reachable.queued_of_not_begun (reached : Reachable plan p)
    (delivered : p.delivered task = 1) (waits : p.begins task = 0) : Queued p task := by
  have h := reached.accounted
  have tokens := reached.tokens
  have account := h.begun task
  have executed := h.executed task
  have queued : 0 < p.slots.queued task := by omega
  obtain ⟨slot, member⟩ := Slots.exists_mem_of_queued_pos queued
  have pending : 0 < p.slots.pending slot := List.length_pos_of_mem member
  have token := tokens.token slot
  have live := p.live_eq slot
  have place := reached.place slot
  have stock : p.slots.pending slot ≤ p.stock slot := Nat.le_add_left _ _
  have alone : (p.slots.channel slot).queue.length = 1 := by
    change p.slots.pending slot = 1
    omega
  obtain ⟨m, queue⟩ := List.length_eq_one_iff.mp alone
  refine ⟨waits, by omega, slot, by omega, tokens.listeners_of_pos (by omega), ?_, fun other there => ?_⟩
  · rw [queue] at member ⊢
    rw [List.mem_singleton.mp member]
  · exact Slots.eq_of_mem_of_queued_le (by omega) member there

/-- A task that has been begun and is not executed any more is over. -/
theorem Accounted.finished (h : Accounted p) (spent : p.executions task < p.begins task) :
    Finished p task := by
  have account := h.begun task
  have delivered : p.delivered task ≤ 1 := markAt_le ..
  have settled := h.settled task
  exact ⟨by omega, by omega, h.not_mem_of_begun (by omega), exists_settled (by omega)⟩

theorem Reachable.stage (reached : Reachable plan p) (delivered : p.delivered task = 1) :
    Queued p task ∨ Underway p task ∨ Finished p task := by
  have h := reached.accounted
  have account := h.begun task
  have executed := h.executed task
  by_cases waits : p.begins task = 0
  · exact .inl (reached.queued_of_not_begun delivered waits)
  · right
    have once : p.begins task = 1 := by omega
    have absent := h.not_mem_of_begun (once.trans delivered.symm)
    by_cases ended : p.executions task = 0
    · exact .inr (h.finished (by omega))
    · exact .inl ⟨once, by omega, absent⟩

/-- The task of a call is begun once at most, and not at all if the call fails. If the call has
handed it over, it is queued, underway or finished ever after. -/
theorem exactly_once {c : Call α} (reached : Reachable plan p) (made : p.calls[call]? = some c)
    (brings : c.op.isTask = true) :
    p.begins call ≤ 1 ∧
    (∀ e, c.phase = .returned (.failed e) → (e = .closed ∨ e = .spawn refusalReason) ∧
      ∀ q, p.Leads q → q.begins call = 0 ∧ q.executions call = 0 ∧
        ∀ slot, .run call ∉ (q.slots.channel slot).queue) ∧
    (c.phase = .returned .done → ∀ q, p.Leads q →
      Queued q call ∨ Underway q call ∨ Finished q call) ∧
    ∀ w ∈ p.workers, w.phase = .retiring → (p.slots.channel w.slot).queue = [] := by
  have h := reached.accounted
  refine ⟨h.begins_le call, ?_, ?_, ?_⟩
  · intro e failed
    have admitted := h.admits made
    rw [failed] at admitted
    refine ⟨Op.error_of_admits brings admitted, fun q led => ?_⟩
    have later := (reached.leads led).accounted
    have delivered := delivered_of_answers (led.answers (answers_of_returned made failed))
    change q.delivered call = 0 at delivered
    have account := later.begun call
    have executed := later.executed call
    exact ⟨by omega, by omega, later.not_mem_of_begun (by omega)⟩
  · intro done q led
    have reached := reached.leads led
    have delivered := delivered_of_answers (led.answers (answers_of_returned made done))
    change q.delivered call = c.op.isTask.toNat at delivered
    rw [brings] at delivered
    exact reached.stage delivered
  · intro w member retiring
    obtain ⟨thread, now⟩ := List.mem_iff_getElem?.mp member
    obtain ⟨slot, phase⟩ := w
    cases retiring
    exact List.length_eq_zero_iff.mp (reached.tokens.pending_of_retiring now)

theorem exactly_once_across_release : ∃ p q : Pool Unit, Reachable { capacity := 1 } p ∧
    p.Leads q ∧ p.phase? 0 = some (.returned .done) ∧
    p.phase? 2 = some (.returned (.failed .closed)) ∧ Queued p 0 ∧ Finished q 0 ∧ q.begins 2 = 0 := by
  let labels : List (Label Unit) :=
    (hiring 0 0).take 8 ++ [.invoke .release, .call 1 none, .call 1 none, .call 1 none,
      .invoke .submit, .call 2 none, .call 2 none]
  let more : List (Label Unit) := [.worker 0 none, .worker 0 none, .finish 0 (.returned ())]
  obtain ⟨p, reached, seen⟩ := exists_reachable { capacity := 1 } labels
    (fun p => p.calls.map (fun c => (c.op, c.phase)) =
        [(.submit, .returned .done), (.release, .returned .done),
          (.submit, .returned (.failed .closed))] ∧
      p.begins 0 = 0 ∧ (p.run more).any fun q => q.begins 0 = 1 ∧ q.executions 0 = 0)
    (by decide)
  obtain ⟨calls, waits, later⟩ := of_decide_eq_true seen
  obtain ⟨q, led, seen⟩ := (Option.any_eq_true _ _).mp later
  obtain ⟨begun, ended⟩ := of_decide_eq_true seen
  have led : p.Leads q := ⟨more, led⟩
  have made (i : Nat) : p.calls[i]?.map (fun c => (c.op, c.phase)) =
      [(.submit, .returned .done), (.release, .returned .done),
        (.submit, .returned (.failed .closed))][i]? := by
    rw [← calls, List.getElem?_map]
  obtain ⟨done, handed, eq⟩ := Option.map_eq_some_iff.mp (made 0)
  obtain ⟨submits, returned⟩ := Prod.mk.inj eq
  obtain ⟨failed, rejected, eq⟩ := Option.map_eq_some_iff.mp (made 2)
  obtain ⟨submits', closed⟩ := Prod.mk.inj eq
  obtain ⟨-, -, stages, -⟩ := exactly_once reached handed (by rw [submits]; rfl)
  obtain ⟨-, failures, -, -⟩ := exactly_once reached rejected (by rw [submits']; rfl)
  refine ⟨p, q, reached, led, ?_, ?_, ?_, ?_, ((failures .closed closed).2 q led).1⟩
  · rw [phase?, handed, Option.map_some, returned]
  · rw [phase?, rejected, Option.map_some, closed]
  · rcases stages returned p (.refl p) with queued | underway | finished
    · exact queued
    · cases waits.symm.trans underway.begins
    · cases waits.symm.trans finished.begins
  · rcases stages returned q led with queued | underway | finished
    · cases begun.symm.trans queued.begins
    · cases ended.symm.trans underway.executions
    · exact finished

end Pool
end WorkerPool
