import WorkerPool.Proofs.Pool.Calm
import WorkerPool.Proofs.Pool.Ending

/-!
# The fallout of panics

A worker whose task has panicked sees to the panic in a step of its own: the panic is counted, and the
handler is called or the log is told. What the pool shows of panics are therefore those that workers have
seen to, and together with those that workers have yet to see to they are the panics of the run.
-/

namespace WorkerPool

structure Crash where
  task : Nat
  worker : Nat
  payload : Payload
  deriving DecidableEq, Repr

def Ending.crash? {α : Type} : Ending α → Option Crash
  | ⟨task, worker, .panicked payload⟩ => some ⟨task, worker, payload⟩
  | _ => none

def WorkerPhase.payload? : WorkerPhase → Option Payload
  | .unwound payload => some payload
  | _ => none

def Worker.panic? (w : Worker) : Option (Nat × Payload) := w.phase.payload?.map (w.slot, ·)

def PanicHandler.notice? (handler : PanicHandler) (worker : Nat) (payload : Payload) : Option Notice :=
  match handler with
  | .absent => some (.panicked worker payload)
  | .returns | .volatile => none
  | .panics => some (.handlerPanicked worker)

namespace Pool

variable {α : Type} {plan : Plan} {p q start : Pool α} {label : Label α} {labels : List (Label α)}
  {call thread slot task : Nat} {wakes : Option Nat} {past : List (Ending α)}

def crashes (past : List (Ending α)) : List Crash := past.filterMap Ending.crash?

/-- The tasks that have panicked. -/
def crashed (past : List (Ending α)) : List Nat := (crashes past).map (·.task)

theorem crashes_append (past more : List (Ending α)) :
    crashes (past ++ more) = crashes past ++ crashes more :=
  List.filterMap_append

/-- The panics that workers have yet to see to. -/
def unwinding (p : Pool α) : List (Nat × Payload) := p.workers.filterMap Worker.panic?

/-- What a pool shows of panics. -/
def traces (p : Pool α) : UInt64 × Nat × List Notice :=
  (p.meters.panicked, p.handled, p.notices.filter (·.isPanic))

/-- What a pool shows of panics follows from those that have been seen to, the latest first. -/
structure Fallout (p : Pool α) (crashes : List Crash) (seen : List (Nat × Payload)) : Prop where
  -- Tasks that panic one after another may have their panics seen to in any order.
  once : (seen ++ p.unwinding).Perm (crashes.map fun crash => (crash.worker, crash.payload))
  counted : p.meters.panicked = .ofNat seen.length
  handled : p.handled = if p.plan.handler.isSet then seen.length else 0
  told : p.notices.filter (·.isPanic) =
    seen.filterMap fun (report : Nat × Payload) => p.plan.handler.notice? report.1 report.2

theorem filterMap_modify_perm {β γ : Type} {g : β → Option γ} {l : List β} {i : Nat} {b : β} (f : β → β)
    (h : l[i]? = some b) :
    ((l.modify i f).filterMap g ++ (g b).toList).Perm (l.filterMap g ++ (g (f b)).toList) := by
  induction l generalizing i with
  | nil => simp at h
  | cons c l ih =>
    cases i with
    | zero =>
      obtain rfl : c = b := by simpa using h
      rw [List.modify_zero_cons, List.filterMap_cons, List.filterMap_cons]
      cases g c with
      | none =>
        cases g (f c) with
        | none => simp
        | some y => simpa using (List.perm_append_singleton y (l.filterMap g)).symm
      | some x =>
        cases g (f c) with
        | none => simp
        | some y =>
          have left := (List.perm_append_singleton x (l.filterMap g)).cons y
          have right := (List.perm_append_singleton y (l.filterMap g)).cons x
          exact left.trans ((List.Perm.swap x y _).trans right.symm)
    | succ i =>
      have rest := ih (i := i) (by simpa using h)
      rw [List.modify_succ_cons, List.filterMap_cons, List.filterMap_cons]
      cases g c with
      | none => exact rest
      | some x => exact rest.cons x

theorem CallMove.traces {old new : Phase} (moves : CallMove p call wakes old new q) :
    q.traces = p.traces := by
  cases moves <;> rfl

theorem ThreadMove.traces {granted : Bool} {old new : Phase} (moves : ThreadMove p granted old new q) :
    q.traces = p.traces := by
  cases moves <;> rfl

theorem WorkerMove.traces {old new : WorkerPhase} (moves : WorkerMove p slot wakes old new q)
    (unhurt : old.payload? = none) : q.traces = p.traces := by
  cases moves with
  | recover | fall => cases unhurt
  | _ => rfl

theorem SweeperMove.traces {epoch : Nat} {old new : SweeperPhase} (moves : SweeperMove p epoch old new q) :
    q.traces = p.traces := by
  cases moves <;> rfl

theorem ThreadMove.unwinding {granted : Bool} {old new : Phase} (moves : ThreadMove p granted old new q) :
    q.unwinding = p.unwinding := by
  cases moves with
  | hire => simp [Pool.unwinding, Worker.panic?, WorkerPhase.payload?]
  | _ => rfl

theorem unwinding_setWorker {old : WorkerPhase} (now : p.workers[thread]? = some ⟨slot, old⟩)
    (new : WorkerPhase) :
    ((p.setWorker thread new).unwinding ++ (Worker.panic? ⟨slot, old⟩).toList).Perm
      (p.unwinding ++ (Worker.panic? ⟨slot, new⟩).toList) :=
  filterMap_modify_perm (g := Worker.panic?) (fun w => { w with phase := new }) now

theorem unwinding_setWorker_of_unhurt {old new : WorkerPhase}
    (now : p.workers[thread]? = some ⟨slot, old⟩) (before : old.payload? = none)
    (after : new.payload? = none) : (p.setWorker thread new).unwinding.Perm p.unwinding := by
  have same := unwinding_setWorker now new
  simpa [Worker.panic?, before, after] using same

variable {seen : List (Nat × Payload)} {panics : List Crash}

theorem Fallout.of_traces (h : Fallout p panics seen) (plan : q.plan = p.plan) (traces : q.traces = p.traces)
    (unwinding : q.unwinding.Perm p.unwinding) : Fallout q panics seen := by
  obtain ⟨meters, traces⟩ := Prod.mk.inj traces
  obtain ⟨handled, notices⟩ := Prod.mk.inj traces
  constructor
  · exact (unwinding.append_left seen).trans h.once
  · rw [meters, h.counted]
  · rw [handled, plan, h.handled]
  · rw [notices, plan, h.told]

theorem traces_panicAftermath (p : Pool α) (slot : Nat) (payload : Payload) :
    (p.panicAftermath slot payload).traces =
      (p.meters.panicked + 1, (if p.plan.handler.isSet then p.handled + 1 else p.handled),
        (p.plan.handler.notice? slot payload).toList ++ p.notices.filter (·.isPanic)) := by
  simp only [panicAftermath]
  cases handler : p.plan.handler <;> rfl

/-- A worker sees to its panic, whether it falls after that or not. -/
theorem Fallout.see {payload : Payload} {new : WorkerPhase} (h : Fallout p panics seen)
    (now : p.workers[thread]? = some ⟨slot, .unwound payload⟩) (workers : q.workers = p.workers)
    (plan : q.plan = p.plan) (traces : (p.panicAftermath slot payload).traces = q.traces)
    (after : new.payload? = none) :
    Fallout (q.setWorker thread new) panics ((slot, payload) :: seen) := by
  rw [traces_panicAftermath] at traces
  obtain ⟨meters, traces⟩ := Prod.mk.inj traces.symm
  obtain ⟨handled, notices⟩ := Prod.mk.inj traces
  have plan : (q.setWorker thread new).plan = p.plan := plan
  constructor
  · have left := unwinding_setWorker (workers.symm ▸ now) new
    have before : q.unwinding = p.unwinding := congrArg (List.filterMap Worker.panic?) workers
    change (_ ++ [(slot, payload)]).Perm (_ ++ (new.payload?.map (slot, ·)).toList) at left
    rw [after, Option.map_none, Option.toList_none, List.append_nil, before] at left
    have moved := (List.perm_append_singleton (slot, payload) _).symm.trans left
    exact List.perm_middle.symm.trans ((moved.append_left seen).trans h.once)
  · refine meters.trans ?_
    rw [h.counted, List.length_cons, UInt64.ofNat_add]
    rfl
  · refine handled.trans ?_
    rw [h.handled, plan, List.length_cons]
    split <;> rfl
  · refine notices.trans ?_
    rw [h.told, plan, List.filterMap_cons]
    dsimp only
    cases p.plan.handler.notice? slot payload <;> rfl

/-- A task that panics leaves its worker to see to it. -/
theorem Fallout.panic {payload : Payload} (h : Fallout p panics seen)
    (now : p.workers[thread]? = some ⟨slot, .executing task⟩) (cell : Cell α) :
    Fallout ((p.setCell task cell).setWorker thread (.unwound payload))
      (panics ++ [⟨task, slot, payload⟩]) seen := by
  refine ⟨?_, h.counted, h.handled, h.told⟩
  have now : (p.setCell task cell).workers[thread]? = some ⟨slot, .executing task⟩ := now
  have came := unwinding_setWorker now (.unwound payload)
  change (_ ++ []).Perm (p.unwinding ++ [(slot, payload)]) at came
  rw [List.append_nil] at came
  rw [List.map_append]
  refine (came.append_left seen).trans ?_
  rw [← List.append_assoc]
  exact h.once.append_right _

theorem Fallout.workerMove {old new : WorkerPhase} (h : Fallout p panics seen)
    (now : p.workers[thread]? = some ⟨slot, old⟩) (moves : WorkerMove p slot wakes old new q) :
    ∃ seen, Fallout (q.setWorker thread new) panics seen := by
  by_cases unwinds : ∃ payload, old = .unwound payload
  · obtain ⟨payload, rfl⟩ := unwinds
    cases moves with
    | recover _ after => exact ⟨_, h.see now rfl rfl (congrArg traces after) rfl⟩
    | fall _ after => exact ⟨_, h.see now rfl rfl ((congrArg traces after).trans rfl) rfl⟩
  · have unhurt : old.payload? = none := by
      cases old with
      | unwound payload => exact absurd ⟨payload, rfl⟩ unwinds
      | _ => rfl
    have after : new.payload? = none := by cases moves <;> rfl
    have same := unwinding_setWorker_of_unhurt (moves.workers.symm ▸ now) unhurt after
    have before : q.unwinding = p.unwinding := congrArg (List.filterMap Worker.panic?) moves.workers
    exact ⟨seen, h.of_traces moves.plan_eq (moves.traces unhurt) (before ▸ same)⟩

theorem Fallout.of_quiet (h : Fallout p (crashes past) seen) (quiet : p.endings label q = [])
    (plan : q.plan = p.plan) (traces : q.traces = p.traces) (unwinding : q.unwinding.Perm p.unwinding) :
    ∃ seen, Fallout q (crashes (past ++ p.endings label q)) seen := by
  rw [quiet, List.append_nil]
  exact ⟨seen, h.of_traces plan traces unwinding⟩

theorem Fallout.move (h : Fallout p (crashes past) seen) (moves : p.Move label q) :
    ∃ seen, Fallout q (crashes (past ++ p.endings label q)) seen := by
  have plan := moves.plan_eq
  have same {r : Pool α} (workers : r.workers = p.workers) : r.unwinding.Perm p.unwinding :=
    .of_eq (congrArg (List.filterMap Worker.panic?) workers)
  cases moves with
  | pass | invoke | stir | stirSweeper => exact h.of_quiet rfl rfl rfl (same rfl)
  | call now moves => exact h.of_quiet rfl plan moves.traces (same moves.workers)
  | thread now moves => exact h.of_quiet rfl plan moves.traces (.of_eq moves.unwinding)
  | sweeper now moves => exact h.of_quiet rfl plan moves.traces (same moves.workers)
  | @worker thread wakes slot old new q now moves =>
    have quiet : p.endings (.worker thread wakes) (q.setWorker thread new) = [] := rfl
    rw [quiet, List.append_nil]
    exact h.workerMove now moves
  | @finish thread outcome slot task now =>
    rw [endings_finish now]
    cases outcome with
    | returned v =>
      have nothing : crashes [Ending.mk task slot (.returned v)] = [] := rfl
      rw [crashes_append, nothing, List.append_nil]
      have now : (p.setCell task (.value v)).workers[thread]? = some ⟨slot, .executing task⟩ := now
      exact ⟨seen, h.of_traces plan rfl (unwinding_setWorker_of_unhurt now rfl rfl)⟩
    | panicked payload =>
      have crash : crashes [Ending.mk task slot (.panicked (α := α) payload)] = [⟨task, slot, payload⟩] := rfl
      rw [crashes_append, crash]
      exact ⟨seen, h.panic now _⟩

theorem Fallout.run (built : build plan true = .ok start) (ran : start.run labels = some p) :
    ∃ seen, Fallout p (crashes (start.gather endings labels)) seen := by
  apply gather_induction (P := fun p past => ∃ seen, Fallout p (crashes past) seen) built ran
  · refine ⟨[], .refl _, rfl, ?_, rfl⟩
    split <;> rfl
  · rintro r s label past _ ⟨seen, h⟩ moves
    exact h.move moves

end Pool
end WorkerPool
