import WorkerPool.Proofs.Pool.Conservation

/-!
# Hand-over of workers

Who has the token of a worker may send it one message without waiting and be sure that there is a
thread to receive it. So tasks and dismissals sent under a lock hold nobody up, and a slot is given
back with nothing in its channel. A worker that falls takes its token with it.
-/

namespace WorkerPool

/-- Whether a call has the worker of a slot in its hands, and the worker its thread. -/
def Phase.keeps (slot : Nat) : Phase → Bool
  | .started s | .publishing s _ | .holding s => s == slot
  | _ => false

/-- Whether a worker has yet to take a message out of its channel. -/
def WorkerPhase.listens : WorkerPhase → Bool
  | .beginning | .receiving => true
  | _ => false

def Worker.liveOn (slot : Nat) (w : Worker) : Bool := w.phase.isLive && w.slot == slot

def Worker.listensOn (slot : Nat) (w : Worker) : Bool := w.phase.listens && w.slot == slot

inductive Place
  | roster
  /-- With a call that has the worker to itself. -/
  | call
  | channel
  /-- With a thread that has taken a message out. -/
  | thread
  /-- With a thread that has fallen. -/
  | fallen
  deriving DecidableEq, Repr

namespace Slots

variable {s t : Slots (Message Nat)} {id : Nat}

def stops (s : Slots (Message Nat)) (slot : Nat) : Nat := (s.channel slot).queue.count .stop

theorem stops_setChannel {c : Channel (Message Nat)} (h : id < s.allocated)
    (few : c.queue.count .stop ≤ s.stops id) (slot : Nat) :
    (s.setChannel id c).stops slot ≤ s.stops slot := by
  rw [stops, channel_setChannel c h]
  split
  · rename_i same
    rw [same]
    exact few
  · exact Nat.le_refl _

theorem stops_receive {m : Message Nat} (h : s.receive id = (some m, t)) (slot : Nat) :
    t.stops slot ≤ s.stops slot := by
  obtain ⟨rest, queue, rfl⟩ := receive_eq_some h
  apply stops_setChannel (lt_allocated_of_pending (by simp [queue]))
  rw [stops, queue]
  exact List.count_le_count_cons

theorem stops_put (empty : s.pending id = 0) (slot : Nat) : (s.put id).stops slot = s.stops slot := by
  rw [put_of_empty empty]
  rfl

end Slots

namespace Pool

variable {α : Type} {plan : Plan} {p q start : Pool α} {labels : List (Label α)}
  {call thread slot : Nat} {wakes : Option Nat}

/-- Number of workers on a slot, from its being taken until it is given back or refused a thread. -/
def live (p : Pool α) (slot : Nat) : Nat := p.tally (Phase.awaits slot) (Worker.liveOn slot)

/-- How often the token of a slot is in a place. -/
def tokensAt (p : Pool α) (slot : Nat) : Place → Nat
  | .roster => p.idle.workers.count slot
  | .call => p.callsIn (Phase.holds slot)
  | .channel => p.slots.pending slot
  | .thread => p.workersIn (Worker.busyOn slot)
  | .fallen => p.fallen.count slot

/-- Number of threads at the receiving end of the channel of a slot. -/
def listeners (p : Pool α) (slot : Nat) : Nat := p.workersIn (Worker.listensOn slot)

theorem live_eq (p : Pool α) (slot : Nat) : p.live slot = p.manned slot + p.fallen.count slot := by
  have workers : p.workersIn (Worker.liveOn slot) =
      p.workersIn (Worker.servesOn slot) + p.workersIn (Worker.fallenOn slot) := by
    apply workersIn_add
    intro w
    cases phase : w.phase <;> simp [Worker.liveOn, Worker.servesOn, Worker.fallenOn, phase,
      WorkerPhase.isLive, WorkerPhase.serves, WorkerPhase.isFallen]
  rw [count_fallen, live, manned, tally, tally, workers, Nat.add_assoc]

theorem Tokens.tokensAt_sum (h : Tokens p) (slot : Nat) :
    p.live slot = p.tokensAt slot .roster + p.tokensAt slot .call + p.tokensAt slot .channel +
      p.tokensAt slot .thread + p.tokensAt slot .fallen := by
  rw [live_eq, ← h.token slot]
  simp only [stock, hands, tally, tokensAt]
  omega

theorem Tokens.manned_le (h : Tokens p) (slot : Nat) : p.manned slot ≤ 1 := by
  have := h.place slot
  omega

/-- A slot whose worker has fallen has been lost to all others. -/
theorem Reachable.place (reached : Reachable plan p) (slot : Nat) :
    p.slots.free.count slot + p.live slot ≤ 1 := by
  have place := reached.tokens.place slot
  have fallen := reached.count_fallen_le slot
  rw [Slots.unused_eq_add] at place
  rw [live_eq]
  omega

theorem Reachable.live_iff (reached : Reachable plan p) :
    0 < p.live slot ↔
      slot ∉ p.slots.free ∧ ((p.slots.channel slot).connected = true ∨ slot ∈ p.fallen) := by
  have here := reached.place slot
  have place := reached.tokens.place slot
  rw [live_eq] at here ⊢
  rw [Slots.unused] at place
  rw [← List.count_eq_zero, ← List.count_pos_iff]
  cases there : (p.slots.channel slot).connected with
  | true =>
    rw [there, Bool.not_true, Bool.toNat_false] at place
    simp only [true_or, and_true]
    omega
  | false =>
    rw [there, Bool.not_false, Bool.toNat_true] at place
    simp only [Bool.false_eq_true, false_or]
    omega

theorem Reachable.exists_place (reached : Reachable plan p) (live : 0 < p.live slot) :
    ∃ place, ∀ other, p.tokensAt slot other = if other = place then 1 else 0 := by
  have sum := reached.tokens.tokensAt_sum slot
  have one := reached.place slot
  obtain ⟨place, here⟩ : ∃ place, 0 < p.tokensAt slot place := by
    apply Classical.byContradiction
    intro nowhere
    have nothing (place : Place) : p.tokensAt slot place = 0 :=
      Nat.eq_zero_of_not_pos fun here => nowhere ⟨place, here⟩
    simp only [nothing] at sum
    omega
  refine ⟨place, fun other => ?_⟩
  cases place <;> cases other <;> simp <;> omega

/-- The channel of a fallen worker is empty, and nobody is at its receiving end. -/
theorem Reachable.channel_of_fallen (reached : Reachable plan p) (fallen : slot ∈ p.fallen) :
    p.slots.channel slot = { connected := false } := by
  have here := List.count_pos_iff.mpr fallen
  have deserted := reached.count_fallen_le slot
  have place := reached.tokens.place slot
  have token := reached.tokens.token slot
  rw [Slots.unused_eq_add] at place
  rw [stock, Slots.pending] at token
  have empty : (p.slots.channel slot).queue = [] := List.length_eq_zero_iff.mp (by omega)
  have unheard : (p.slots.channel slot).connected = false := by
    cases there : (p.slots.channel slot).connected with
    | false => rfl
    | true =>
      rw [Slots.deserted, there, Bool.not_true, Bool.and_false, Bool.toNat_false] at deserted
      omega
  rw [← empty, ← unheard]

theorem Tokens.channel_of_tokensAt {place : Place} (h : Tokens p) (here : 0 < p.tokensAt slot place)
    (elsewhere : place ≠ .channel) (up : place ≠ .fallen) : p.slots.channel slot = {} := by
  apply h.channel_eq
  cases place with
  | roster => exact Nat.add_pos_left here _
  | call => exact Nat.add_pos_right _ (Nat.add_pos_left here _)
  | channel => exact absurd rfl elsewhere
  | thread => exact Nat.add_pos_right _ (Nat.add_pos_right _ here)
  | fallen => exact absurd rfl up

/-- A worker that executes a task does not wait for another. -/
theorem Tokens.not_idle_of_busy {w : Worker} (h : Tokens p) (member : w ∈ p.workers)
    (busy : w.phase.isBusy = true) : w.slot ∉ p.idle.workers := by
  obtain ⟨thread, now⟩ := List.mem_iff_getElem?.mp member
  intro idle
  have idle := List.count_pos_iff.mpr idle
  have busy : 0 < p.workersIn (Worker.busyOn w.slot) := workersIn_pos now (by simp [Worker.busyOn, busy])
  have token := h.token w.slot
  have one := h.manned_le w.slot
  unfold stock hands tally at token
  omega

/-- A worker listens as long as its token is not in its own hands. -/
theorem Tokens.listeners_eq (h : Tokens p) (slot : Nat) :
    p.listeners slot = p.stock slot + p.callsIn (Phase.keeps slot) := by
  have calls : p.callsIn (Phase.holds slot) =
      p.callsIn (Phase.awaits slot) + p.callsIn (Phase.keeps slot) :=
    callsIn_add (fun phase => by cases phase <;> simp [Phase.holds, Phase.awaits, Phase.keeps]) p
  have workers : p.workersIn (Worker.servesOn slot) =
      p.workersIn (Worker.busyOn slot) + p.workersIn (Worker.listensOn slot) := by
    apply workersIn_add
    intro w
    cases w with
    | mk s phase =>
      cases phase <;>
        simp [Worker.servesOn, Worker.busyOn, Worker.listensOn, WorkerPhase.serves,
          WorkerPhase.isBusy, WorkerPhase.listens]
  have token := h.token slot
  unfold hands manned tally at token
  unfold listeners
  omega

theorem listeners_le (p : Pool α) (slot : Nat) :
    p.listeners slot ≤ p.workersIn (Worker.servesOn slot) := by
  apply workersIn_mono
  intro w
  cases w with
  | mk s phase => cases phase <;> simp [Worker.servesOn, Worker.listensOn, WorkerPhase.serves,
      WorkerPhase.listens]

theorem Tokens.listeners_of_pos (h : Tokens p) (here : 0 < p.stock slot + p.callsIn (Phase.keeps slot)) :
    p.listeners slot = 1 := by
  have all := h.listeners_eq slot
  have one := h.manned_le slot
  have some : p.listeners slot ≤ p.manned slot :=
    Nat.le_trans (p.listeners_le slot) (Nat.le_add_left _ _)
  omega

theorem Tokens.listeners_of_idle (h : Tokens p) (idle : slot ∈ p.idle.workers) :
    p.listeners slot = 1 :=
  h.listeners_of_pos (Nat.add_pos_left (Nat.add_pos_left (List.count_pos_iff.mpr idle) _) _)

theorem Tokens.listeners_of_holding (h : Tokens p) (now : p.phase? call = some (.holding slot)) :
    p.listeners slot = 1 :=
  h.listeners_of_pos (Nat.add_pos_right _ (callsIn_pos now (beq_self_eq_true slot)))

theorem Tokens.exists_stopAll {workers : List Nat} (h : Tokens p)
    (some : workers.Sublist p.idle.workers) :
    ∃ told, stopAll p.slots workers = .some told ∧ told.free = p.slots.free ∧
      ∀ slot, told.channel slot =
        if slot ∈ workers then { queue := [.stop] } else p.slots.channel slot :=
  stopAll_of_empty (h.idle_nodup.sublist some) fun _ member => h.channel_of_idle (some.subset member)

theorem stops_of_stopAll {slots told : Slots (Message Nat)} {workers : List Nat}
    (channels : ∀ slot, told.channel slot =
      if slot ∈ workers then { queue := [.stop] } else slots.channel slot) :
    told.stops slot ≤ slots.stops slot ∨ slot ∈ workers := by
  by_cases member : slot ∈ workers
  · exact .inr member
  · left
    exact Nat.le_of_eq (by rw [Slots.stops, Slots.stops, channels, if_neg member])

section Moves

variable {old new : Phase}

/-- A call dismisses only workers that wait. -/
theorem CallMove.stops (moves : CallMove p call wakes old new q) (h : Tokens p) (slot : Nat) :
    q.slots.stops slot ≤ p.slots.stops slot ∨ slot ∈ p.idle.workers := by
  cases moves with
  | take =>
    left
    have queue : (p.slots.take.2.channel slot).queue = (p.slots.channel slot).queue :=
      Slots.queue_take rfl slot
    exact Nat.le_of_eq (congrArg (List.count Message.stop) queue)
  | hand sent =>
    left
    obtain ⟨empty, rfl⟩ := Slots.send_eq_sent sent
    exact Slots.stops_setChannel (Slots.lt_allocated (by rw [empty])) (Nat.zero_le _) slot
  | close opened stopped =>
    obtain ⟨told, again, -, channels⟩ := h.exists_stopAll (List.Sublist.refl _)
    cases stopped.symm.trans again
    exact stops_of_stopAll channels
  | _ => exact .inl (Nat.le_refl _)

theorem ThreadMove.stops {granted : Bool} (moves : ThreadMove p granted old new q) (h : Tokens p)
    (now : p.phase? call = some old) (slot : Nat) : q.slots.stops slot ≤ p.slots.stops slot := by
  cases moves with
  | @refuse other =>
    have channel := h.channel_of_holds now (beq_self_eq_true other)
    exact Slots.stops_setChannel (Slots.lt_allocated (by rw [channel])) (Nat.zero_le _) slot
  | _ => exact Nat.le_refl _

end Moves

section Moves

variable {old new : WorkerPhase}

theorem WorkerMove.stops (moves : WorkerMove p slot wakes old new q) (h : Tokens p)
    (now : p.workers[thread]? = some ⟨slot, old⟩) (other : Nat) :
    q.slots.stops other ≤ p.slots.stops other := by
  cases moves with
  | execute got | stop got => exact Slots.stops_receive got other
  | giveSlot =>
    exact Nat.le_of_eq (Slots.stops_put (h.pending_of_retiring now) other)
  | fall =>
    have channel := h.channel_of_busy now (beq_self_eq_true slot)
    exact Slots.stops_setChannel (Slots.lt_allocated (by rw [channel])) (Nat.zero_le _) other
  | _ => exact Nat.le_refl _

end Moves

theorem SweeperMove.stops {epoch : Nat} {old new : SweeperPhase}
    (moves : SweeperMove p epoch old new q) (h : Tokens p) (slot : Nat) :
    q.slots.stops slot ≤ p.slots.stops slot ∨ slot ∈ p.idle.workers := by
  cases moves with
  | evict opened current due late stopped =>
    have some := Roster.sublist_sweep due
    obtain ⟨told, again, -, channels⟩ := h.exists_stopAll some
    cases stopped.symm.trans again
    exact (stops_of_stopAll channels).imp_right fun member => some.subset member
  | _ => exact .inl (Nat.le_refl _)

theorem Move.stops {label : Label α} (moves : p.Move label q) (h : Tokens p) (slot : Nat) :
    q.slots.stops slot ≤ p.slots.stops slot ∨ slot ∈ p.idle.workers := by
  cases moves with
  | call now moves => exact moves.stops h slot
  | thread now moves => exact .inl (moves.stops h now slot)
  | worker now moves => exact .inl (moves.stops h now slot)
  | sweeper now moves => exact moves.stops h slot
  | _ => exact .inl (Nat.le_refl _)

/-- What can be relied on about the workers of a pool. -/
structure Handover (p : Pool α) : Prop where
  /-- A slot is live as long as it is neither free nor lost with a thread that was refused. -/
  live : ∀ slot, 0 < p.live slot ↔
    slot ∉ p.slots.free ∧ ((p.slots.channel slot).connected = true ∨ slot ∈ p.fallen)
  /-- The token of a live slot is in one place, and it is there once. -/
  token : ∀ slot, 0 < p.live slot →
    ∃ place, ∀ other, p.tokensAt slot other = if other = place then 1 else 0
  /-- Where the token is not in the channel, the channel is empty, and it is open but for a fallen worker. -/
  channel : ∀ slot place, 0 < p.tokensAt slot place → place ≠ .channel →
    p.slots.channel slot = { connected := place ≠ .fallen }
  /-- A worker that executes a task is not in the roster. -/
  roster : ∀ w ∈ p.workers, w.phase.isExecuting = true → w.slot ∉ p.idle.workers
  /-- A step sends a dismissal only to a worker that waits. -/
  dismissed : ∀ label q slot, p.step label = some q → p.slots.stops slot < q.slots.stops slot →
    slot ∈ p.idle.workers
  /-- A task that is handed over finds room in the channel and one thread at the other end. -/
  assign : ∀ call worker, p.phase? call = some (.holding worker) →
    p.listeners worker = 1 ∧
      p.slots.send worker (.run call) =
        (.sent, p.slots.setChannel worker { queue := [.run call] })
  /-- So do the dismissals of any number of waiting workers, one after the other. -/
  stop : ∀ workers, workers.Sublist p.idle.workers →
    (∀ worker ∈ workers, p.listeners worker = 1) ∧
      ∃ told, stopAll p.slots workers = some told ∧
        ∀ worker ∈ workers, told.channel worker = { queue := [.stop] }
  /-- A call that hands a task over or closes the pool never has to wait for room. -/
  call : ∀ call phase wakes, p.phase? call = some phase →
    phase = .closing ∨ (∃ worker, phase = .holding worker) → (p.step (.call call wakes)).isSome
  /-- Nor does a sweeper. -/
  sweeper : ∀ thread epoch tick, p.sweepers[thread]? = some ⟨epoch, .awake tick⟩ →
    (p.step (.sweeper thread)).isSome
  /-- There is nothing in the channel of a slot that is given back. -/
  retire : ∀ w ∈ p.workers, w.phase = .retiring → (p.slots.channel w.slot).queue = []

theorem Tokens.step_closing (h : Tokens p) (now : p.phase? call = some .closing) :
    (p.step (.call call wakes)).isSome := by
  obtain ⟨told, stopped, -, -⟩ := h.exists_stopAll (List.Sublist.refl _)
  simp only [step, now, Option.bind_some, callStep, close, Roster.drain, stopped]
  split <;> rfl

theorem Tokens.send_of_holding (h : Tokens p) (now : p.phase? call = some (.holding slot)) :
    p.slots.send slot (.run call) = (.sent, p.slots.setChannel slot { queue := [.run call] }) :=
  Slots.send_of_empty (h.channel_of_holds now (beq_self_eq_true slot)) _

theorem Tokens.step_holding (h : Tokens p) (now : p.phase? call = some (.holding slot)) :
    (p.step (.call call wakes)).isSome := by
  simp only [step, now, Option.bind_some, callStep, handOver, h.send_of_holding now]
  rfl

theorem Tokens.step_awake {epoch tick : Nat} (h : Tokens p)
    (now : p.sweepers[thread]? = some ⟨epoch, .awake tick⟩) : (p.step (.sweeper thread)).isSome := by
  simp only [step, now, Option.bind_some, sweeperStep]
  split
  · rfl
  · unfold sweepStep
    split
    · rfl
    · rfl
    · rename_i next dismissed kept due
      obtain ⟨told, stopped, -, -⟩ := h.exists_stopAll (Roster.sublist_sweep due)
      rw [stopped]
      split <;> rfl

theorem Reachable.handover (reached : Reachable plan p) : Handover p := by
  have h := reached.tokens
  refine ⟨fun slot => reached.live_iff, fun slot => reached.exists_place, ?_, ?_, ?_, ?_, ?_, ?_,
    fun thread epoch tick => h.step_awake, ?_⟩
  · intro slot place here elsewhere
    by_cases down : place = .fallen
    · rw [down] at here ⊢
      exact reached.channel_of_fallen (List.count_pos_iff.mp here)
    · rw [h.channel_of_tokensAt here elsewhere down]
      simp [down]
  · intro w member executing
    apply h.not_idle_of_busy member
    cases phase : w.phase <;> rw [phase] at executing <;> first | rfl | cases executing
  · intro label q slot stepped more
    rcases (Move.of_step stepped).stops h slot with few | idle
    · exact absurd more (Nat.not_lt_of_le few)
    · exact idle
  · exact fun call worker now => ⟨h.listeners_of_holding now, h.send_of_holding now⟩
  · intro workers some
    refine ⟨fun worker member => h.listeners_of_idle (some.subset member), ?_⟩
    obtain ⟨told, stopped, -, channels⟩ := h.exists_stopAll some
    exact ⟨told, stopped, fun worker member => by rw [channels, if_pos member]⟩
  · intro call phase wakes now sends
    rcases sends with rfl | ⟨worker, rfl⟩
    · exact h.step_closing now
    · exact h.step_holding now
  · intro w member retiring
    obtain ⟨thread, now⟩ := List.mem_iff_getElem?.mp member
    cases w with
    | mk slot phase =>
      cases retiring
      exact List.length_eq_zero_iff.mp (h.pending_of_retiring now)

/-- One token for each live worker, and in a gentle run it is within reach. -/
theorem one_token (built : build plan true = .ok start) (ran : start.run labels = some p) :
    Handover p ∧ (Gentle plan labels → ∀ slot, 0 < p.live slot →
      ∃ place, place ≠ .fallen ∧ ∀ other, p.tokensAt slot other = if other = place then 1 else 0) := by
  have reached : Reachable plan p := ⟨start, labels, built, ran⟩
  refine ⟨reached.handover, fun gentle slot live => ?_⟩
  obtain ⟨place, only⟩ := reached.exists_place live
  refine ⟨place, ?_, only⟩
  rintro rfl
  have fallen := only .fallen
  rw [tokensAt, fallen_eq_nil built ran gentle] at fallen
  cases fallen

theorem one_token_in_each_place : ∃ (start p : Pool Unit) (labels : List (Label Unit)),
    build { capacity := 4 } true = .ok start ∧ start.run labels = some p ∧ Gentle { capacity := 4 } labels ∧
    p.tokensAt 0 .thread = 1 ∧ p.tokensAt 1 .roster = 1 ∧ p.tokensAt 2 .call = 1 ∧
    p.tokensAt 3 .channel = 1 ∧ Handover p ∧
    ∀ slot, 0 < p.live slot → ∃ place, place ≠ .fallen ∧
      ∀ other, p.tokensAt slot other = if other = place then 1 else 0 := by
  let labels : List (Label Unit) :=
    hiring 0 0 ++ hiring 1 1 ++ (hiring 2 2).take 6 ++ (hiring 3 3).take 8 ++
      [.finish 1 (.panicked .opaqueValue), .worker 1 none, .worker 1 none]
  let start : Pool Unit := fresh Unit { capacity := 4 }
  have built : build { capacity := 4 } true = .ok start := rfl
  have gentle : Gentle { capacity := 4 } labels := by decide
  have seen : (start.run labels).any (fun p => p.tokensAt 0 .thread = 1 ∧ p.tokensAt 1 .roster = 1 ∧
      p.tokensAt 2 .call = 1 ∧ p.tokensAt 3 .channel = 1) = true := by decide
  obtain ⟨p, ran, seen⟩ := (Option.any_eq_true _ _).mp seen
  obtain ⟨thread, roster, call, channel⟩ := of_decide_eq_true seen
  obtain ⟨handover, reach⟩ := one_token built ran
  exact ⟨start, p, labels, built, ran, gentle, thread, roster, call, channel, handover, reach gentle⟩

/-- The slot of a worker that has fallen is live, and its token is in no place where it can be had. -/
theorem token_of_fallen_worker : ∃ (start p : Pool Unit),
    build { capacity := 1 } true = .ok start ∧ start.run falling = some p ∧ p.live 0 = 1 ∧
    p.tokensAt 0 .roster = 0 ∧ p.tokensAt 0 .call = 0 ∧ p.tokensAt 0 .channel = 0 ∧
    p.tokensAt 0 .thread = 0 := by
  let start : Pool Unit := fresh Unit { capacity := 1 }
  have seen : (start.run falling).any (fun p => p.live 0 = 1 ∧ p.tokensAt 0 .roster = 0 ∧
      p.tokensAt 0 .call = 0 ∧ p.tokensAt 0 .channel = 0 ∧ p.tokensAt 0 .thread = 0) = true := by decide
  obtain ⟨p, ran, seen⟩ := (Option.any_eq_true _ _).mp seen
  exact ⟨start, p, rfl, ran, of_decide_eq_true seen⟩

end Pool
end WorkerPool
