import WorkerPool.Proofs.Pool.Conservation
import WorkerPool.Proofs.Pool.Role

/-!
# The slots that a snapshot shows

A snapshot reads the number of allocated slots once, and slots are never given up, so what it shows
is at most what there is. The capacity bounds it as long as every worker is granted its thread. A
refused thread takes its slot along, though, while the number of running workers goes back to what it
was: the next worker gets a new slot, and so on without end.
-/

namespace WorkerPool

/-- Whether what a snapshot has read so far fits a capacity and a number of allocated slots. -/
def Phase.Within (capacity allocated : Nat) : Phase → Prop
  | .countingRunning _ _ cached seen => cached ≤ capacity ∧ seen ≤ allocated
  | .returned (.stats s) =>
    s.capacity = capacity ∧ s.cached ≤ capacity ∧ s.allocated ≤ allocated
  | _ => True

theorem Phase.Within.mono {capacity allocated more : Nat} {phase : Phase}
    (h : phase.Within capacity allocated) (le : allocated ≤ more) : phase.Within capacity more := by
  cases phase with
  | countingRunning => exact ⟨h.1, Nat.le_trans h.2 le⟩
  | returned answer =>
    cases answer with
    | stats s => exact ⟨h.1, h.2.1, Nat.le_trans h.2.2 le⟩
    | _ => trivial
  | _ => trivial

theorem Op.within_firstPhase (op : Op) (capacity allocated : Nat) :
    op.firstPhase.Within capacity allocated := by
  cases op <;> trivial

namespace Slots

variable {τ : Type}

theorem allocated_take_le (s : Slots τ) : s.allocated ≤ s.take.2.allocated := by
  unfold take allocated
  split <;> simp

end Slots

namespace Pool

variable {α : Type} {plan : Plan} {p q start : Pool α} {label : Label α} {labels : List (Label α)}
  {call slot : Nat} {wakes : Option Nat}

theorem CallMove.allocated_le {old new : Phase} (moves : CallMove p call wakes old new q) :
    p.slots.allocated ≤ q.slots.allocated := by
  cases moves with
  | take => exact p.slots.allocated_take_le
  | hand sent =>
    obtain ⟨-, rfl⟩ := Slots.send_eq_sent sent
    exact Nat.le_of_eq (Slots.allocated_setChannel ..).symm
  | close opened stopped => exact Nat.le_of_eq (allocated_stopAll stopped).symm
  | _ => exact Nat.le_refl _

theorem WorkerMove.allocated_eq {old new : WorkerPhase} (moves : WorkerMove p slot wakes old new q) :
    q.slots.allocated = p.slots.allocated := by
  cases moves with
  | execute got | stop got =>
    obtain ⟨_, -, rfl⟩ := Slots.receive_eq_some got
    exact Slots.allocated_setChannel ..
  | giveSlot => exact Slots.allocated_put ..
  | fall => exact Slots.allocated_setChannel ..
  | _ => rfl

theorem Move.allocated_le (moves : p.Move label q) : p.slots.allocated ≤ q.slots.allocated := by
  cases moves with
  | call now moves => exact moves.allocated_le
  | thread now moves =>
    cases moves with
    | refuse => exact Nat.le_of_eq (Slots.allocated_setChannel ..).symm
    | _ => exact Nat.le_refl _
  | worker now moves => exact Nat.le_of_eq moves.allocated_eq.symm
  | sweeper now moves =>
    cases moves with
    | evict opened current due late stopped => exact Nat.le_of_eq (allocated_stopAll stopped).symm
    | _ => exact Nat.le_refl _
  | _ => exact Nat.le_refl _

/-- Whether all that snapshots have read fits the pool. -/
def Faithful (p : Pool α) : Prop :=
  ∀ call op phase, p.role? call = some (op, phase) → phase.Within p.plan.capacity p.slots.allocated

theorem PhaseMove.within {old new : Phase} (moves : PhaseMove p call q label old new) (roomy : Roomy p)
    (h : old.Within p.plan.capacity p.slots.allocated) :
    new.Within p.plan.capacity p.slots.allocated := by
  have cached : p.slots.cached ≤ p.plan.capacity := by
    unfold Roomy at roomy
    omega
  cases moves with
  | stay => exact h
  | wake => trivial
  | call moves =>
    cases moves with
    | countSlots => exact ⟨cached, Nat.le_refl _⟩
    | countRunning => exact ⟨rfl, h⟩
    | _ => trivial
  | thread moves => cases moves <;> trivial

theorem Faithful.move (h : Faithful p) (roomy : Roomy p) (moves : p.Move label q) : Faithful q := by
  intro call op phase now
  rw [moves.plan_eq]
  rcases moves.role?_cases now with ⟨-, rfl⟩ | ⟨old, before, way⟩
  · exact op.within_firstPhase ..
  · exact (way.within roomy (h call op old before)).mono moves.allocated_le

theorem Reachable.faithful (reached : Reachable plan p) : Faithful p := by
  apply reached.induction (P := Faithful)
  · intro _ call op phase now
    cases now
  · exact fun before h moves => h.move before.roomy moves

theorem role?_of_answer? {answer : Answer} (answered : p.answer? call = some answer) :
    ∃ op, p.role? call = some (op, .returned answer) := by
  obtain ⟨phase, now, returned⟩ := Option.bind_eq_some_iff.mp answered
  cases phase <;> cases returned
  exact exists_role? now

/-- The labels of a submission that is refused a thread. -/
def refusing (call : Nat) : List (Label α) :=
  [.invoke .submit, .call call none, .call call none, .thread call false, .call call none,
    .call call none]

structure Barren (p : Pool α) : Prop where
  opened : p.closed = false
  nobody : p.idle.pop? = none
  room : p.running < p.plan.capacity
  free : p.slots.free = []
  silent : p.someoneWaits = false

theorem modify_concat {β : Type} (l : List β) (b : β) (f : β → β) :
    (l ++ [b]).modify l.length f = l ++ [f b] := by
  induction l with
  | nil => rfl
  | cons c l ih => simp [ih]

def add (p : Pool α) (c : Call α) : Pool α := { p with calls := p.calls ++ [c] }

theorem phase?_add (p : Pool α) (c : Call α) : (p.add c).phase? p.calls.length = some c.phase := by
  simp [phase?, add]

theorem setPhase_add (p : Pool α) (c : Call α) (new : Phase) :
    (p.add c).setPhase p.calls.length new = p.add { c with phase := new } := by
  simp [setPhase, add, modify_concat]

theorem giveUp_add (p : Pool α) (c : Call α) (e : PoolError) :
    (p.add c).giveUp p.calls.length e =
      p.add { c with phase := .returned (.failed e), cell := .failed } := by
  simp [giveUp, setCell, setPhase, add, modify_concat]

def refused (p : Pool α) : Pool α :=
  { p with
    calls := p.calls ++
      [{ op := .submit, phase := .returned (.failed (.spawn refusalReason)), cell := .failed }]
    slots := { p.slots with channels := p.slots.channels ++ [{ connected := false }] }
    notices := .refusedThread refusalReason :: p.notices }

theorem hangUp_take (s : Slots (Message Nat)) (none : s.free = []) :
    s.take.2.hangUp s.take.1 = { s with channels := s.channels ++ [{ connected := false }] } := by
  simp [Slots.take, none, Slots.hangUp, Slots.setChannel, Channel.hangUp, Slots.allocated]

theorem someoneWaits_add (p : Pool α) (c : Call α) :
    (p.add c).someoneWaits = (p.someoneWaits || c.phase.isWaiting) := by
  simp [someoneWaits, add]

theorem step_call_add (p : Pool α) (c : Call α) (wakes : Option Nat) :
    (p.add c).step (.call p.calls.length wakes) = (p.add c).callStep p.calls.length wakes c.phase :=
  step_call (phase?_add p c) wakes

theorem step_thread_add (p : Pool α) (c : Call α) (granted : Bool) :
    (p.add c).step (.thread p.calls.length granted) =
      (p.add c).threadStep p.calls.length granted c.phase := by
  rw [step, phase?_add]
  rfl

/-- A refused thread costs the pool a slot, and the call is told; nothing else is left of it. -/
theorem run_refusing (h : Barren p) : p.run (refusing p.calls.length) = some p.refused := by
  let call (phase : Phase) : Call α := { op := .submit, phase }
  let raised : Pool α := { p with running := p.running + 1 }
  let taken : Pool α := { raised with slots := p.slots.take.2 }
  let hungUp : Pool α := { taken with slots := p.slots.take.2.hangUp p.slots.take.1 }
  let lowered : Pool α := { hungUp with running := p.running }
  have invoke : p.step (.invoke .submit) = some (p.add (call (.acquiring none))) := rfl
  have reserve : (p.add (call (.acquiring none))).step (.call p.calls.length none) =
      some (raised.add (call .reserved)) := by
    rw [step_call_add, ← setPhase_add raised (call (.acquiring none))]
    have opened := h.opened
    have nobody := h.nobody
    have room := h.room
    simp [callStep, acquire, add, opened, nobody, room, call, recordWait, raised]
  have take : (raised.add (call .reserved)).step (.call p.calls.length none) =
      some (taken.add (call (.starting p.slots.take.1))) :=
    (step_call_add raised _ none).trans (congrArg some (setPhase_add taken _ _))
  have refuse : (taken.add (call (.starting p.slots.take.1))).step (.thread p.calls.length false) =
      some (hungUp.add (call .refused)) :=
    (step_thread_add taken _ false).trans (congrArg some (setPhase_add hungUp _ .refused))
  have giveBack : (hungUp.add (call .refused)).step (.call p.calls.length none) =
      some (lowered.add (call .passingOn)) :=
    (step_call_add hungUp _ none).trans (congrArg some (setPhase_add lowered _ .passingOn))
  have passOn : (lowered.add (call .passingOn)).step (.call p.calls.length none) = some p.refused := by
    have silent : (lowered.add (call .passingOn)).someoneWaits = false := by
      rw [someoneWaits_add]
      exact (Bool.or_false _).trans h.silent
    let told : Pool α := lowered.note (.refusedThread refusalReason)
    rw [step_call_add lowered]
    simp only [callStep, wakeOne, silent, Bool.false_eq_true, if_false, Option.map_some]
    refine congrArg some ((giveUp_add told (call .passingOn) (.spawn refusalReason)).trans ?_)
    rw [refused, ← hangUp_take p.slots h.free]
    rfl
  rw [refusing, run_cons invoke, run_cons reserve, run_cons take, run_cons refuse, run_cons giveBack,
    run_cons passOn]
  rfl

def counting (call : Nat) : List (Label α) :=
  [.invoke .stats, .call call none, .call call none, .call call none]

theorem run_counting (p : Pool α) : p.run (counting p.calls.length) =
    some (p.add { op := .stats, phase := .returned (.stats p.stats) }) := by
  let call (phase : Phase) : Call α := { op := .stats, phase }
  let slots : Phase := .countingSlots p.idle.size p.closed
  let running : Phase := .countingRunning p.idle.size p.closed p.slots.cached p.slots.allocated
  have invoke : p.step (.invoke .stats) = some (p.add (call .countingIdle)) := rfl
  have first : (p.add (call .countingIdle)).step (.call p.calls.length none) = some (p.add (call slots)) :=
    (step_call_add p _ none).trans (congrArg some (setPhase_add p _ _))
  have second : (p.add (call slots)).step (.call p.calls.length none) = some (p.add (call running)) :=
    (step_call_add p _ none).trans (congrArg some (setPhase_add p _ _))
  have third : (p.add (call running)).step (.call p.calls.length none) =
      some (p.add (call (.returned (.stats p.stats)))) :=
    (step_call_add p _ none).trans (congrArg some (setPhase_add p _ _))
  rw [counting, run_cons invoke, run_cons first, run_cons second, run_cons third]
  rfl

theorem Barren.refused (h : Barren p) : Barren p.refused where
  opened := h.opened
  nobody := h.nobody
  room := h.room
  free := h.free
  silent := (someoneWaits_add p _).trans ((Bool.or_false _).trans h.silent)

theorem Barren.exists_allocated (h : Barren p) (n : Nat) :
    ∃ q, p.Leads q ∧ Barren q ∧ q.running = p.running ∧ q.slots.allocated = p.slots.allocated + n := by
  induction n with
  | zero => exact ⟨p, .refl p, h, rfl, rfl⟩
  | succ n ih =>
    obtain ⟨q, led, barren, running, allocated⟩ := ih
    have more : q.refused.slots.allocated = q.slots.allocated + 1 := List.length_append
    exact ⟨q.refused, led.trans ⟨_, run_refusing barren⟩, barren.refused, running, by omega⟩

/-- A snapshot shows no more slots than the capacity and the refused threads come to, and no more
free slots than the capacity. -/
theorem snapshot_allocated_le {s : Stats} (built : build plan true = .ok start)
    (ran : start.run labels = some p) (answered : p.answer? call = some (.stats s)) :
    s.capacity = plan.capacity ∧ s.cached ≤ s.capacity ∧
      s.allocated ≤ s.capacity + (start.lost labels).length := by
  have reached : Reachable plan p := ⟨start, labels, built, ran⟩
  obtain ⟨op, now⟩ := role?_of_answer? answered
  obtain ⟨capacity, cached, seen⟩ := reached.faithful call op _ now
  have roomy := reached.roomy
  have sum := allocated_eq_add built ran
  unfold Roomy at roomy
  rw [reached.plan_eq] at capacity cached roomy
  exact ⟨capacity, by omega, by omega⟩

theorem snapshot_allocated_le_after_refusal : ∃ (start p : Pool Unit) (labels : List (Label Unit)),
    build { capacity := 2 } true = .ok start ∧ start.run labels = some p ∧
    p.answer? 2 = some (.stats p.stats) ∧ p.stats.running = 1 ∧ p.stats.allocated = 2 ∧
    p.stats.capacity = 2 ∧ p.stats.cached ≤ p.stats.capacity ∧
    p.stats.allocated ≤ p.stats.capacity + (start.lost labels).length := by
  let labels : List (Label Unit) := refusing 0 ++ hiring 1 0 ++ counting 2
  let start : Pool Unit := fresh Unit { capacity := 2 }
  have built : build { capacity := 2 } true = .ok start := rfl
  have seen : (start.run labels).any (fun p => p.answer? 2 = some (.stats p.stats) ∧
      p.stats.running = 1 ∧ p.stats.allocated = 2) = true := by decide
  obtain ⟨p, ran, seen⟩ := (Option.any_eq_true _ _).mp seen
  obtain ⟨answered, running, allocated⟩ := of_decide_eq_true seen
  have bound := snapshot_allocated_le built ran answered
  exact ⟨start, p, labels, built, ran, answered, running, allocated, bound⟩

/-- With one refused thread behind it, a pool for one worker shows two slots. -/
theorem capacity_lt_snapshot_allocated : ∃ p : Pool Unit, Reachable { capacity := 1 } p ∧
    p.answer? 0 = some (.failed (.spawn refusalReason)) ∧ p.answer? 1 = some .done ∧
    p.answer? 2 = some (.stats p.stats) ∧ p.stats.running = 1 ∧
    p.stats.capacity < p.stats.allocated := by
  obtain ⟨p, reached, seen⟩ := exists_reachable { capacity := 1 }
    (refusing 0 ++ hiring 1 0 ++ counting 2 : List (Label Unit))
    (fun p => p.answer? 0 = some (.failed (.spawn refusalReason)) ∧ p.answer? 1 = some .done ∧
      p.answer? 2 = some (.stats p.stats) ∧ p.stats.running = 1 ∧
      p.stats.capacity < p.stats.allocated) (by decide)
  exact ⟨p, reached, of_decide_eq_true seen⟩

/-- Whatever the capacity, a snapshot may come to show any number of slots, without one worker. -/
theorem exists_snapshot_allocated_eq (built : build plan true = .ok start) (n : Nat) :
    ∃ p call s, start.Leads p ∧ p.answer? call = some (.stats s) ∧ s.running = 0 ∧ s.allocated = n := by
  obtain ⟨positive, rfl⟩ := build_eq_ok built
  have barren : Barren (fresh α plan) := ⟨rfl, rfl, positive, rfl, rfl⟩
  obtain ⟨q, led, -, running, allocated⟩ := barren.exists_allocated n
  refine ⟨_, q.calls.length, q.stats, led.trans ⟨_, q.run_counting⟩, ?_, running, ?_⟩
  · rw [answer?, phase?_add]
    rfl
  · exact allocated.trans (Nat.zero_add n)

end Pool
end WorkerPool
