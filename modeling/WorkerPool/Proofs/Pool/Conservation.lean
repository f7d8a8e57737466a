import WorkerPool.Proofs.Pool.Capacity
import WorkerPool.Proofs.Pool.Fall
import WorkerPool.Proofs.Pool.Token

/-!
# Conservation of slots

A slot that was ever allocated is free, or held by one call or worker thread, or was lost with a
thread that was refused, or is that of a worker that has fallen. The slots lost are those of a row of
steps, as the pool itself keeps no record of them. A slot is allocated only when none is free, and then its call counts as running;
this is what keeps the slots that are not lost within the capacity.
-/

namespace WorkerPool

def Phase.awaited? : Phase → Option Nat
  | .starting slot => some slot
  | _ => none

def Phase.isStarting : Phase → Bool
  | .starting _ => true
  | _ => false

def Phase.isReserved : Phase → Bool
  | .reserved => true
  | _ => false

/-- Whether a worker has not given its slot back. -/
def WorkerPhase.isLive : WorkerPhase → Bool
  | .lowering | .lowered | .publishing _ | .leaving | .gone => false
  | _ => true

namespace Slots

variable {τ : Type} {s t : Slots τ} {id : Nat} {m : τ}

/-- Whether a slot has been allocated and has nobody at the receiving end of its channel. -/
def deserted (s : Slots τ) (slot : Nat) : Nat :=
  (decide (slot < s.allocated) && !(s.channel slot).connected).toNat

theorem deserted_of_le {slot : Nat} (h : s.allocated ≤ slot) : s.deserted slot = 0 := by
  simp [deserted, Nat.not_lt_of_le h]

theorem unused_eq_add (s : Slots τ) (slot : Nat) :
    s.unused slot = s.free.count slot + s.deserted slot + (decide (s.allocated ≤ slot)).toNat := by
  by_cases inside : slot < s.allocated
  · simp [unused, deserted, inside, Nat.not_le_of_lt inside]
  · have outside : s.allocated ≤ slot := Nat.le_of_not_lt inside
    simp [unused, deserted_of_le, outside, channel_of_le]

theorem deserted_eq {slot : Nat} (free : t.free = s.free) (allocated : t.allocated = s.allocated)
    (unused : t.unused slot = s.unused slot) : t.deserted slot = s.deserted slot := by
  rw [unused_eq_add, unused_eq_add, free, allocated] at unused
  omega

theorem deserted_take (h : s.take = (id, t)) (slot : Nat) : t.deserted slot = s.deserted slot := by
  unfold take at h
  split at h
  · obtain ⟨-, rfl⟩ := Prod.mk.inj h
    rfl
  · obtain ⟨-, rfl⟩ := Prod.mk.inj h
    have more : ({ s with channels := s.channels ++ [{}] } : Slots τ).allocated = s.allocated + 1 := by
      simp [allocated]
    rw [deserted, deserted, channel_concat, more]
    split
    · rename_i new
      simp [new]
    · rename_i old
      have same : slot < s.allocated + 1 ↔ slot < s.allocated := by omega
      simp only [same]

theorem deserted_send (h : s.send id m = (.sent, t)) (slot : Nat) :
    t.deserted slot = s.deserted slot := by
  have unused := (send_spec h slot).1
  obtain ⟨-, rfl⟩ := send_eq_sent h
  exact deserted_eq rfl (allocated_setChannel ..) unused

theorem deserted_receive (h : s.receive id = (some m, t)) (slot : Nat) :
    t.deserted slot = s.deserted slot := by
  have unused := (receive_spec h slot).1
  obtain ⟨_, -, rfl⟩ := receive_eq_some h
  exact deserted_eq rfl (allocated_setChannel ..) unused

theorem deserted_put (empty : s.pending id = 0) (slot : Nat) :
    (s.put id).deserted slot = s.deserted slot := by
  rw [put_of_empty empty]
  rfl

/-- A slot whose receiving end goes away is deserted from then on. -/
theorem deserted_hangUp (empty : s.channel id = {}) (slot : Nat) :
    (s.hangUp id).deserted slot = s.deserted slot + (id == slot).toNat := by
  have unused := (hangUp_spec empty slot).1
  have allocated : (s.hangUp id).allocated = s.allocated := allocated_setChannel ..
  rw [unused_eq_add, unused_eq_add, allocated] at unused
  change s.free.count slot + _ + _ = _ at unused
  omega

end Slots

namespace Pool

variable {α : Type} {plan : Plan} {p q start : Pool α} {label : Label α} {labels : List (Label α)}
  {call thread slot : Nat} {wakes : Option Nat}

theorem Tokens.deserted_stopAll {workers : List Nat} {told : Slots (Message Nat)} (h : Tokens p)
    (some : workers.Sublist p.idle.workers) (stopped : stopAll p.slots workers = .some told)
    (slot : Nat) : told.deserted slot = p.slots.deserted slot :=
  Slots.deserted_eq (free_stopAll stopped) (allocated_stopAll stopped)
    (h.stopAll_spec some stopped slot).1

/-- The slot that is lost in a step, with the thread that is refused. -/
def lostSlot? (p : Pool α) : Label α → Option Nat
  | .thread call false => (p.phase? call).bind (·.awaited?)
  | _ => none

/-- The slots lost in a row of steps, one for each worker thread that is refused. -/
def lost (p : Pool α) : List (Label α) → List Nat
  | [] => []
  | label :: rest => (p.lostSlot? label).toList ++ (p.step label).elim [] (·.lost rest)

section Moves

variable {old new : Phase}

theorem CallMove.deserted (moves : CallMove p call wakes old new q) (h : Tokens p) (slot : Nat) :
    q.slots.deserted slot = p.slots.deserted slot := by
  cases moves with
  | take => exact Slots.deserted_take rfl slot
  | hand sent => exact Slots.deserted_send sent slot
  | close opened stopped => exact h.deserted_stopAll (List.Sublist.refl _) stopped slot
  | _ => rfl

theorem ThreadMove.deserted {granted : Bool} (moves : ThreadMove p granted old new q) (h : Tokens p)
    (now : p.phase? call = some old) (slot : Nat) :
    q.slots.deserted slot =
      p.slots.deserted slot + (p.lostSlot? (.thread call granted)).toList.count slot := by
  cases moves with
  | @refuse other =>
    have empty := h.channel_of_holds now (beq_self_eq_true other)
    have lost : p.lostSlot? (.thread call false) = some other := by simp [lostSlot?, now, Phase.awaited?]
    rw [lost, Option.toList_some, List.count_singleton]
    exact (Slots.deserted_hangUp empty slot).trans (by cases other == slot <;> rfl)
  | abandon =>
    have lost : p.lostSlot? (.thread call false) = none := by simp [lostSlot?, now, Phase.awaited?]
    rw [lost]
    rfl
  | _ => rfl

end Moves

theorem WorkerMove.deserted {old new : WorkerPhase} (moves : WorkerMove p slot wakes old new q)
    (h : Tokens p) (now : p.workers[thread]? = some ⟨slot, old⟩) (other : Nat) :
    q.slots.deserted other + (Worker.fallenOn other ⟨slot, old⟩).toNat =
      p.slots.deserted other + (Worker.fallenOn other ⟨slot, new⟩).toNat := by
  cases moves with
  | execute got | stop got => exact Slots.deserted_receive got other
  | giveSlot => exact Slots.deserted_put (h.pending_of_retiring now) other
  | fall => exact Slots.deserted_hangUp (h.channel_of_busy now (beq_self_eq_true slot)) other
  | _ => rfl

theorem SweeperMove.deserted {epoch : Nat} {old new : SweeperPhase}
    (moves : SweeperMove p epoch old new q) (h : Tokens p) (slot : Nat) :
    q.slots.deserted slot = p.slots.deserted slot := by
  cases moves with
  | evict opened current due late stopped =>
    exact h.deserted_stopAll (Roster.sublist_sweep due) stopped slot
  | _ => rfl

/-- A slot is deserted when its thread is refused or its worker falls, and never otherwise. -/
theorem Move.deserted (moves : p.Move label q) (h : Tokens p) (slot : Nat) :
    q.slots.deserted slot + p.fallen.count slot =
      p.slots.deserted slot + q.fallen.count slot + (p.lostSlot? label).toList.count slot := by
  rw [count_fallen, count_fallen]
  cases moves with
  | @call call wakes old new r now moves =>
    rw [moves.workersIn]
    exact congrArg (· + _) (moves.deserted h slot)
  | @thread call granted old new r now moves =>
    have deserted := moves.deserted h now slot
    have hired : new.hired.any (Worker.fallenOn slot) = false := by cases new <;> rfl
    have fallen : (r.setPhase call new).workersIn _ = _ := moves.workersIn (Worker.fallenOn slot)
    rw [hired, Bool.toNat_false] at fallen
    change r.slots.deserted slot + _ = _
    omega
  | @worker thread wakes on old new r now moves =>
    have deserted := moves.deserted h now slot
    have fallen := moves.workersIn_trade (Worker.fallenOn slot) now
    change r.slots.deserted slot + _ = _ + 0
    omega
  | @finish thread outcome on task now =>
    have fallen := workersIn_setWorker (p.setCell task outcome.cell) outcome.aftermath
      (Worker.fallenOn slot) now
    have aftermath : outcome.aftermath.isFallen = false := by cases outcome <;> rfl
    simp only [Worker.fallenOn, aftermath] at fallen
    exact congrArg (p.slots.deserted slot + ·) fallen.symm
  | sweeper now moves =>
    rw [moves.workersIn]
    exact congrArg (· + _) (moves.deserted h slot)
  | _ => rfl

theorem count_lost (h : Tokens p) (ran : p.run labels = some q) (slot : Nat) :
    q.slots.deserted slot + p.fallen.count slot =
      p.slots.deserted slot + q.fallen.count slot + (p.lost labels).count slot := by
  induction labels generalizing p with
  | nil =>
    cases ran
    rfl
  | cons label labels ih =>
    obtain ⟨r, stepped, ran⟩ := Option.bind_eq_some_iff.mp ran
    have moves := Move.of_step stepped
    have first := moves.deserted h slot
    have others := ih (h.move moves) ran
    rw [lost, stepped, Option.elim_some, List.count_append]
    omega

/-- The slots in use: each is with a call that has asked for a thread, or with a thread. -/
def held (p : Pool α) : List Nat :=
  p.calls.filterMap (·.phase.awaited?) ++ (p.workers.filter (·.phase.serves)).map (·.slot)

/-- Number of slots that have been taken and neither given back nor refused a thread. -/
def taken (p : Pool α) : Nat := p.tally Phase.isStarting (·.phase.isLive)

theorem length_held (p : Pool α) : p.held.length + p.fallen.length = p.taken := by
  have calls : (p.calls.filterMap (·.phase.awaited?)).length = p.callsIn Phase.isStarting := by
    rw [List.length_filterMap_eq_countP, callsIn, views, List.count, List.countP_map]
    congr 1
    funext c
    cases h : c.phase <;> simp [h, Phase.awaited?, Phase.isStarting]
  have workers : p.workersIn (·.phase.isLive) =
      p.workersIn (·.phase.serves) + p.workersIn (·.phase.isFallen) :=
    workersIn_add (fun w => by cases w.phase <;> rfl) p
  have serving : ((p.workers.filter (·.phase.serves)).map (·.slot)).length =
      p.workersIn (·.phase.serves) := by
    rw [List.length_map, ← List.countP_eq_length_filter]
    rfl
  rw [length_fallen, held, List.length_append, calls, serving, taken, tally, workers, Nat.add_assoc]

theorem count_held (p : Pool α) (slot : Nat) : p.held.count slot = p.manned slot := by
  have calls : (p.calls.filterMap (·.phase.awaited?)).count slot = p.callsIn (Phase.awaits slot) := by
    simp only [callsIn, views, List.count, List.countP_filterMap, List.countP_map]
    congr 1
    funext c
    cases h : c.phase <;> simp [h, Phase.awaited?, Phase.awaits]
  have workers : ((p.workers.filter (·.phase.serves)).map (·.slot)).count slot =
      p.workersIn (Worker.servesOn slot) := count_slots p WorkerPhase.serves slot
  rw [held, List.count_append, calls, workers, manned, tally]

theorem callsIn_reserves (p : Pool α) :
    p.callsIn Phase.isStarting + p.callsIn Phase.isReserved ≤ p.reservations := by
  have parts : (p.callsIn fun phase => phase.isStarting || phase.isReserved) =
      p.callsIn Phase.isStarting + p.callsIn Phase.isReserved :=
    callsIn_add (fun phase => by cases phase <;> rfl) p
  rw [← parts]
  apply callsIn_mono
  intro phase
  cases phase <;> simp [Phase.isStarting, Phase.isReserved, Phase.reserves]

theorem workersIn_isLive_le (p : Pool α) : p.workersIn (·.phase.isLive) ≤ p.counted := by
  apply workersIn_mono
  intro w
  cases h : w.phase <;> simp [WorkerPhase.isLive, WorkerPhase.counts]

/-- Whoever uses a slot or is about to take one counts as running. -/
theorem Balanced.taken_le (h : Balanced p) : p.taken + p.callsIn Phase.isReserved ≤ p.running := by
  have calls := p.callsIn_reserves
  have workers := p.workersIn_isLive_le
  have accounts : p.running = p.reservations + p.counted := h.accounts
  unfold taken tally
  omega

/-- The slots in use and those free are as many as there may be workers. -/
def Roomy (p : Pool α) : Prop := p.slots.cached + p.taken ≤ p.plan.capacity

theorem blind_isStarting : Blind fun _ => Phase.isStarting := fun _ phase => by cases phase <;> rfl

/-- A slot that is taken is one of the free slots, unless there are none. -/
theorem cached_take (s : Slots (Message Nat)) :
    s.take.2.cached + 1 = s.cached ∨ s.take.2.cached = 0 := by
  unfold Slots.take Slots.cached
  cases s.free with
  | nil => exact .inr rfl
  | cons id rest => exact .inl rfl

/-- What a call needs to have a slot comes from the free slots, unless there are none. -/
theorem CallMove.cached {old new : Phase} (moves : CallMove p call wakes old new q) :
    q.slots.cached + new.isStarting.toNat = p.slots.cached + old.isStarting.toNat ∨
      (q.slots.cached = 0 ∧ old.isReserved = true) := by
  cases moves with
  | take => exact (cached_take p.slots).imp id fun none => ⟨none, rfl⟩
  | hand sent =>
    obtain ⟨-, rfl⟩ := Slots.send_eq_sent sent
    exact .inl rfl
  | close opened stopped => exact .inl (congrArg (fun free => free.length + 0) (free_stopAll stopped))
  | _ => exact .inl rfl

theorem Roomy.callMove {old new : Phase} (h : Roomy p) (balanced : Balanced p)
    (now : p.phase? call = some old) (moves : CallMove p call wakes old new q) :
    Roomy (q.setPhase call new) := by
  have taken : (q.setPhase call new).taken + old.isStarting.toNat =
      p.taken + new.isStarting.toNat := moves.tally _ now fun _ => blind_isStarting
  unfold Roomy at *
  change q.slots.cached + _ ≤ q.plan.capacity
  rw [moves.plan_eq]
  -- A new slot is taken only when none is free, and then the call itself counts as running.
  rcases moves.cached with kept | ⟨nobody, reserved⟩
  · omega
  · have running := balanced.taken_le
    have bounded := balanced.bounded
    have here : 0 < p.callsIn Phase.isReserved := callsIn_pos now reserved
    have one := Bool.toNat_le new.isStarting
    omega

theorem Roomy.threadMove {granted : Bool} {old new : Phase} (h : Roomy p)
    (now : p.phase? call = some old) (moves : ThreadMove p granted old new q) :
    Roomy (q.setPhase call new) := by
  have taken : (q.setPhase call new).taken + old.isStarting.toNat =
      p.taken + new.isStarting.toNat + (new.hired.any (·.phase.isLive)).toNat :=
    moves.tally _ _ now
  have fewer : new.isStarting.toNat + (new.hired.any (·.phase.isLive)).toNat ≤
      old.isStarting.toNat := by
    cases moves <;> simp [Phase.isStarting, Phase.hired, WorkerPhase.isLive]
  have cached : q.slots.cached = p.slots.cached := by cases moves <;> rfl
  have plan : q.plan = p.plan := by cases moves <;> rfl
  unfold Roomy at *
  change q.slots.cached + _ ≤ q.plan.capacity
  rw [plan]
  omega

/-- A worker that gives its slot back has ceased to use it. -/
theorem WorkerMove.cached {old new : WorkerPhase} (moves : WorkerMove p slot wakes old new q) :
    q.slots.cached + new.isLive.toNat = p.slots.cached + old.isLive.toNat := by
  cases moves with
  | execute got | stop got =>
    obtain ⟨_, -, rfl⟩ := Slots.receive_eq_some got
    rfl
  | _ => rfl

theorem Roomy.workerMove {old new : WorkerPhase} (h : Roomy p)
    (now : p.workers[thread]? = some ⟨slot, old⟩) (moves : WorkerMove p slot wakes old new q) :
    Roomy (q.setWorker thread new) := by
  have taken : (q.setWorker thread new).taken + old.isLive.toNat = p.taken + new.isLive.toNat :=
    moves.tally _ now fun _ => blind_isStarting
  have cached := moves.cached
  unfold Roomy at *
  change q.slots.cached + _ ≤ q.plan.capacity
  rw [moves.plan_eq]
  omega

theorem Roomy.sweeperMove {epoch : Nat} {old new : SweeperPhase} (h : Roomy p)
    (moves : SweeperMove p epoch old new q) : Roomy (q.setSweeper thread new) := by
  have taken : (q.setSweeper thread new).taken = p.taken := moves.tally _ _
  have cached : q.slots.cached = p.slots.cached := by
    cases moves with
    | evict opened current due late stopped => exact congrArg List.length (free_stopAll stopped)
    | _ => rfl
  have plan : q.plan = p.plan := by cases moves <;> rfl
  unfold Roomy at *
  change q.slots.cached + _ ≤ q.plan.capacity
  rw [plan]
  omega

theorem Roomy.move (h : Roomy p) (balanced : Balanced p) (moves : p.Move label q) : Roomy q := by
  have others (none : label.caller? = none) : q.callsIn Phase.isStarting = p.callsIn Phase.isStarting :=
    moves.callsIn_of_others none blind_isStarting fun op => by cases op <;> rfl
  cases moves with
  | pass | stirSweeper => exact h
  | invoke | stir =>
    unfold Roomy taken tally at *
    rw [others rfl]
    exact h
  | call now moves => exact h.callMove balanced now moves
  | thread now moves => exact h.threadMove now moves
  | worker now moves => exact h.workerMove now moves
  | @finish thread outcome slot task now =>
    have alive : outcome.aftermath.isLive = true := by cases outcome <;> rfl
    have taken := tally_finish Phase.isStarting (·.phase.isLive) outcome now
    rw [alive] at taken
    exact Nat.le_trans (Nat.le_of_eq (congrArg (p.slots.cached + ·) (Nat.add_right_cancel taken))) h
  | sweeper now moves => exact h.sweeperMove moves

theorem Reachable.roomy (reached : Reachable plan p) : Roomy p :=
  reached.induction (P := Roomy) (fun _ => Nat.zero_le _) fun before h moves =>
    h.move before.balanced moves

theorem count_range_add (n slot : Nat) :
    (List.range n).count slot + (decide (n ≤ slot)).toNat = 1 := by
  rw [List.nodup_range.count]
  by_cases inside : slot < n
  · simp [inside, Nat.not_le_of_lt inside]
  · simp [inside, Nat.le_of_not_lt inside]

/-- The slots deserted are those lost and those of fallen workers. -/
theorem deserted_eq_add (built : build plan true = .ok start) (ran : start.run labels = some p)
    (slot : Nat) :
    p.slots.deserted slot = p.fallen.count slot + (start.lost labels).count slot := by
  obtain ⟨-, rfl⟩ := build_eq_ok built
  have count : p.slots.deserted slot + 0 = 0 + p.fallen.count slot + _ := count_lost Tokens.fresh ran slot
  omega

theorem Reachable.count_fallen_le (reached : Reachable plan p) (slot : Nat) :
    p.fallen.count slot ≤ p.slots.deserted slot := by
  obtain ⟨start, labels, built, ran⟩ := reached
  have count := deserted_eq_add built ran slot
  omega

/-- Each slot ever allocated is free, in use, lost or that of a fallen worker, and it is so once. -/
theorem perm_range (built : build plan true = .ok start) (ran : start.run labels = some p) :
    (p.slots.free ++ p.held ++ start.lost labels ++ p.fallen).Perm (List.range p.slots.allocated) := by
  have tokens : Tokens p := Reachable.tokens ⟨start, labels, built, ran⟩
  apply List.perm_iff_count.mpr
  intro slot
  have place := tokens.place slot
  have deserted := deserted_eq_add built ran slot
  have all := count_range_add p.slots.allocated slot
  rw [Slots.unused_eq_add] at place
  rw [List.count_append, List.count_append, List.count_append, count_held]
  omega

theorem allocated_eq_add (built : build plan true = .ok start) (ran : start.run labels = some p) :
    p.slots.allocated = p.slots.cached + p.taken + (start.lost labels).length := by
  have sum := (perm_range built ran).length_eq
  have workers := p.length_held
  rw [List.length_append, List.length_append, List.length_append, List.length_range] at sum
  unfold Slots.cached
  omega

/-- The slots allocated are those free, those in use, those lost and those of fallen workers, each of them
once, and a gentle run has none of the last. So the slots of workers are different, they are no more than
the workers that count as running, and only slots that were lost come on top of the capacity. -/
theorem slots_partition (built : build plan true = .ok start) (ran : start.run labels = some p) :
    (p.slots.free ++ p.held ++ start.lost labels ++ p.fallen).Perm (List.range p.slots.allocated) ∧
      (p.held ++ p.fallen).Nodup ∧ p.held.length + p.fallen.length ≤ p.running ∧
      p.slots.allocated ≤ plan.capacity + (start.lost labels).length ∧
      (start.lost labels = [] → p.slots.allocated ≤ plan.capacity) ∧
      (Gentle plan labels →
        (p.slots.free ++ p.held ++ start.lost labels).Perm (List.range p.slots.allocated)) := by
  have reached : Reachable plan p := ⟨start, labels, built, ran⟩
  have partition := perm_range built ran
  have distinct := partition.nodup_iff.mpr List.nodup_range
  have sum := allocated_eq_add built ran
  have workers := p.length_held
  have roomy : p.slots.cached + p.taken ≤ plan.capacity := reached.plan_eq ▸ reached.roomy
  have running := reached.balanced.taken_le
  refine ⟨partition, ?_, ?_, ?_, ?_, ?_⟩
  · have inner : p.held.Sublist (p.slots.free ++ p.held ++ start.lost labels) :=
      (List.sublist_append_right ..).trans (List.sublist_append_left ..)
    exact distinct.sublist (inner.append_right p.fallen)
  · omega
  · omega
  · intro none
    rw [none, List.length_nil] at sum
    omega
  · intro gentle
    rwa [fallen_eq_nil built ran gentle, List.append_nil] at partition

theorem slots_partition_after_refusal : ∃ (start p : Pool Unit) (labels : List (Label Unit)),
    build { capacity := 2 } true = .ok start ∧ start.run labels = some p ∧ Gentle { capacity := 2 } labels ∧
    p.slots.free = [2] ∧ p.held = [1] ∧ start.lost labels = [0] ∧
    (p.slots.free ++ p.held ++ start.lost labels).Perm (List.range 3) ∧ (p.held ++ p.fallen).Nodup ∧
    p.held.length + p.fallen.length ≤ p.running ∧
    p.slots.allocated ≤ 2 + (start.lost labels).length := by
  let labels : List (Label Unit) :=
    [.invoke .submit, .call 0 none, .call 0 none, .thread 0 false, .call 0 none, .call 0 none] ++
      hiring 1 0 ++ hiring 2 1 ++
      [.invoke .release, .call 3 none, .finish 1 (.panicked .opaqueValue), .worker 1 none,
        .worker 1 none, .worker 1 none]
  let start : Pool Unit := fresh Unit { capacity := 2 }
  have built : build { capacity := 2 } true = .ok start := rfl
  have gentle : Gentle { capacity := 2 } labels := by decide
  have seen : (start.run labels).any (fun p => p.slots.free = [2] ∧ p.held = [1] ∧
      start.lost labels = [0] ∧ p.slots.allocated = 3) = true := by decide
  obtain ⟨p, ran, seen⟩ := (Option.any_eq_true _ _).mp seen
  obtain ⟨free, held, lost, allocated⟩ := of_decide_eq_true seen
  obtain ⟨-, distinct, running, bounded, -, partition⟩ := slots_partition built ran
  exact ⟨start, p, labels, built, ran, gentle, free, held, lost, allocated ▸ partition gentle, distinct,
    running, bounded⟩

/-- The only slot of a pool is neither free nor lost with a refused thread, and no call and no thread has it. -/
theorem slot_of_fallen_worker : ∃ (start p : Pool Unit),
    build { capacity := 1 } true = .ok start ∧ start.run falling = some p ∧
    p.slots.allocated = 1 ∧ p.running = 1 ∧ start.lost falling = [] ∧
    ¬(p.slots.free ++ p.held ++ start.lost falling).Perm (List.range p.slots.allocated) := by
  let start : Pool Unit := fresh Unit { capacity := 1 }
  have seen : (start.run falling).any (fun p => p.slots.allocated = 1 ∧ p.running = 1 ∧
      start.lost falling = [] ∧
      ¬(p.slots.free ++ p.held ++ start.lost falling).Perm (List.range p.slots.allocated)) = true := by
    decide
  obtain ⟨p, ran, seen⟩ := (Option.any_eq_true _ _).mp seen
  exact ⟨start, p, rfl, ran, of_decide_eq_true seen⟩

end Pool
end WorkerPool
