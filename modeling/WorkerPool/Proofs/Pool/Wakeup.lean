import WorkerPool.Proofs.Pool.Capacity
import WorkerPool.Proofs.Pool.Handover

/-!
# No wakeup is lost

As long as calls wait, whatever they wait for is on its way to one of them: for each waiting worker
and each unit of free capacity there is a call that looks for a worker, or somebody who is about to
wake a call. Where the pool has been closed, there is somebody about to wake them all.
-/

namespace WorkerPool

/-- Whether a call has no worker yet, or has yet to pass on the capacity that it could not use. -/
def Phase.stands : Phase → Bool
  | .acquiring _ | .waiting _ | .passingOn => true
  | _ => false

def Phase.rouses : Phase → Bool
  | .wakingSubmitters _ => true
  | _ => false

/-- Whether a worker has ceased to count and has yet to wake a call. -/
def WorkerPhase.signals : WorkerPhase → Bool
  | .lowered | .publishing _ | .leaving => true
  | _ => false

/-- Whether a call has returned or waits to be woken. -/
def Phase.rests : Phase → Bool
  | .waiting _ | .returned _ => true
  | _ => false

theorem Roster.size_pop? {r kept : Roster} {worker : Nat} (h : r.pop? = some (worker, kept)) :
    kept.size + 1 = r.size := by
  obtain ⟨p, last, eq⟩ := Option.map_eq_some_iff.mp h
  obtain ⟨-, rfl⟩ := Prod.mk.inj eq
  obtain ⟨others, parts⟩ := List.getLast?_eq_some_iff.mp last
  simp [size, parts]

namespace Pool

variable {α : Type} {plan : Plan} {p q start : Pool α} {labels : List (Label α)}
  {call thread slot : Nat} {wakes : Option Nat}

/-- Number of calls that wait to be woken. -/
def waiters (p : Pool α) : Nat := p.callsIn Phase.isWaiting

/-- Number of workers that calls could have at once, be they waiting or new. -/
def spare (p : Pool α) : Nat := p.idle.size + p.free

/-- Number of calls without a worker, and of those about to wake one of them. -/
def standing (p : Pool α) : Nat := p.tally Phase.stands (·.phase.signals)

/-- If calls wait, either they will all be woken, or those who look for a worker or are about to
wake a call are as many as the workers to be had. -/
def Served (p : Pool α) : Prop :=
  0 < p.waiters →
    0 < p.callsIn Phase.rouses ∨ (p.closed = false ∧ p.spare + p.waiters ≤ p.standing)

theorem blind_stands : Blind fun _ => Phase.stands := fun _ phase => by cases phase <;> rfl

theorem blind_rouses : Blind fun _ => Phase.rouses := fun _ phase => by cases phase <;> rfl

theorem rouse_eq {since : Nat} (now : p.phase? call = some (.waiting since)) :
    p.rouse call = p.setPhase call (.acquiring (some since)) := by
  obtain ⟨c, made, waiting⟩ := Option.map_eq_some_iff.mp now
  unfold rouse setPhase
  congr 1
  apply List.ext_getElem?
  intro other
  rw [List.getElem?_modify, List.getElem?_modify]
  split
  · rename_i same
    rw [← same, made]
    simp [waiting, Phase.rouse]
  · rfl

theorem waiters_rouse (waits : p.isWaiting call = true) : (p.rouse call).waiters + 1 = p.waiters := by
  obtain ⟨since, now⟩ := isWaiting_iff.mp waits
  rw [rouse_eq now]
  exact callsIn_setPhase now (.acquiring (some since)) Phase.isWaiting

theorem waiters_wakeOne (woke : p.wakeOne wakes = some q) :
    q.waiters = 0 ∨ q.waiters + 1 = p.waiters := by
  rcases wakeOne_cases woke with ⟨nobody, rfl⟩ | ⟨other, waits, rfl⟩
  · left
    unfold waiters callsIn views
    rw [List.count_eq_zero]
    simpa [someoneWaits] using nobody
  · exact .inr (waiters_rouse waits)

theorem waiters_wakeSubmitters (p : Pool α) : p.wakeSubmitters.waiters = 0 := by
  have roused (phase : Phase) : phase.rouse.isWaiting = false := by cases phase <;> rfl
  unfold waiters callsIn views
  rw [List.count_eq_zero]
  simp [wakeSubmitters, roused]

theorem waiters_le_standing (p : Pool α) : p.waiters ≤ p.standing := by
  have calls : p.callsIn Phase.isWaiting ≤ p.callsIn Phase.stands := by
    apply callsIn_mono
    intro phase waits
    cases phase <;> first | rfl | cases waits
  unfold waiters standing tally
  omega

/-- What is needed of a move: it takes no more workers away from those who look for one than it
gives them, or nobody waits any more. -/
theorem Served.of_supply (h : Served p) (rousers : p.callsIn Phase.rouses ≤ q.callsIn Phase.rouses)
    (closed : q.closed = p.closed)
    (supply : q.waiters = 0 ∨ (q.waiters ≤ p.waiters ∧
      q.spare + q.waiters + p.standing ≤ p.spare + p.waiters + q.standing)) : Served q := by
  intro some
  rcases supply with nobody | ⟨fewer, supply⟩
  · omega
  · rcases h (by omega) with rousing | ⟨opened, enough⟩
    · exact .inl (by omega)
    · exact .inr ⟨closed.trans opened, by omega⟩

theorem spare_of_nobody (nobody : p.idle.pop? = none) (full : p.plan.capacity ≤ p.running) :
    p.spare = 0 := by
  have empty : p.idle.size = 0 :=
    List.length_eq_zero_iff.mpr ((Roster.pop?_eq_none_iff p.idle).mp nobody)
  unfold spare free
  omega

section Moves

variable {old new : Phase}

/-- A call that looks for a worker takes one or finds none, and one that gives capacity back has yet
to wake another. -/
theorem CallMove.supply (moves : CallMove p call wakes old new q) (balanced : Balanced p)
    (now : p.phase? call = some old) (quiet : old.wakes = false) :
    new.rouses = true ∨ (q.closed = false ∧ q.spare = 0) ∨
      (new.isWaiting = false ∧ (p.closed = true ∨
        (q.closed = p.closed ∧ q.spare + old.stands.toNat ≤ p.spare + new.stands.toNat))) := by
  have bounded := balanced.bounded
  have positive := balanced.reserved_pos now
  cases moves with
  | turnAway closed | closeAgain closed | reopen closed => exact .inr (.inr ⟨rfl, .inl closed⟩)
  | @reuse since? worker idle opened found =>
    have size := Roster.size_pop? found
    refine .inr (.inr ⟨rfl, .inr ⟨rfl, ?_⟩⟩)
    change idle.size + p.free + 1 ≤ p.idle.size + p.free + 0
    omega
  | reserve opened nobody room =>
    refine .inr (.inr ⟨rfl, .inr ⟨rfl, ?_⟩⟩)
    change p.idle.size + (p.plan.capacity - (p.running + 1)) + 1 ≤
      p.idle.size + (p.plan.capacity - p.running) + 0
    omega
  | wait opened nobody full => exact .inr (.inl ⟨opened, spare_of_nobody nobody full⟩)
  | saturate opened nobody full => exact .inr (.inl ⟨opened, spare_of_nobody nobody full⟩)
  | giveBack =>
    have lowered := lowered_of_pos (positive rfl)
    refine .inr (.inr ⟨rfl, .inr ⟨rfl, ?_⟩⟩)
    change p.idle.size + (p.plan.capacity - Pool.lowered p.running) + 0 ≤
      p.idle.size + (p.plan.capacity - p.running) + 1
    omega
  | passOn | wakeSubmitters => cases quiet
  | close => exact .inl rfl
  | _ => exact .inr (.inr ⟨rfl, .inr ⟨rfl, Nat.le_refl _⟩⟩)

theorem Served.quietMove (h : Served p) (balanced : Balanced p) (now : p.phase? call = some old)
    (moves : CallMove p call wakes old new q) (quiet : old.wakes = false) :
    Served (q.setPhase call new) := by
  have still : old.rouses = false := by cases old <;> first | rfl | cases quiet
  have waiters : (q.setPhase call new).waiters + old.isWaiting.toNat =
      p.waiters + new.isWaiting.toNat := by
    apply moves.callsIn now
    intro loud
    rw [quiet] at loud
    cases loud
  have rousers := moves.callsIn now fun _ => blind_rouses
  have standing : (q.setPhase call new).standing + old.stands.toNat =
      p.standing + new.stands.toNat := moves.tally _ now fun _ => blind_stands
  rw [still, Bool.toNat_false] at rousers
  rcases moves.supply balanced now quiet with rouses | ⟨opened, nothing⟩ | ⟨awake, supply⟩
  · intro _
    rw [rouses, Bool.toNat_true] at rousers
    exact .inl (by omega)
  · intro _
    have enough := waiters_le_standing (q.setPhase call new)
    refine .inr ⟨opened, ?_⟩
    change q.spare + _ ≤ _
    omega
  · rw [awake, Bool.toNat_false] at waiters
    rcases supply with closed | ⟨same, supply⟩
    · intro some
      rcases h (by omega) with rousing | ⟨opened, _⟩
      · exact .inl (by omega)
      · rw [closed] at opened
        cases opened
    · refine h.of_supply (by omega) same (.inr ⟨by omega, ?_⟩)
      change q.spare + _ + _ ≤ _
      omega

theorem Served.callMove (h : Served p) (balanced : Balanced p) (now : p.phase? call = some old)
    (moves : CallMove p call wakes old new q) : Served (q.setPhase call new) := by
  -- A move that wakes nobody leaves the number of waiters alone but for its own call.
  cases quiet : old.wakes with
  | false => exact h.quietMove balanced now moves quiet
  | true =>
    have rousers := moves.callsIn now fun _ => blind_rouses
    have standing := moves.tally (·.phase.signals) now fun _ => blind_stands
    have awake : new.isWaiting = false := by cases moves <;> first | rfl | cases quiet
    have fewer : (q.setPhase call new).waiters ≤ q.waiters := callsIn_setPhase_le q call awake
    cases moves with
    | @passOn calls woke =>
      have cell : (({ p with calls }.note (.refusedThread refusalReason)).setCell call .failed).waiters =
          ({ p with calls } : Pool α).waiters := congrArg (List.count true) (views_setCell ..)
      have waiters := waiters_wakeOne woke
      rw [cell] at fewer
      refine h.of_supply (Nat.le_of_eq rousers.symm) rfl ?_
      rcases waiters with nobody | one
      · exact .inl (by omega)
      · refine .inr ⟨by omega, ?_⟩
        change p.spare + _ + _ ≤ _
        change Pool.standing _ + 1 = p.standing + 0 at standing
        omega
    | wakeSubmitters =>
      intro some
      rw [waiters_wakeSubmitters] at fewer
      omega
    | _ => cases quiet

theorem Served.threadMove {granted : Bool} (h : Served p) (now : p.phase? call = some old)
    (moves : ThreadMove p granted old new q) : Served (q.setPhase call new) := by
  have waiters := moves.callsIn now Phase.isWaiting
  have rousers := moves.callsIn now Phase.rouses
  have standing := moves.tally Phase.stands (·.phase.signals) now
  cases moves <;>
  · refine h.of_supply (Nat.le_of_eq rousers.symm) rfl (.inr ⟨Nat.le_of_eq waiters, ?_⟩)
    change Pool.waiters _ = p.waiters at waiters
    change Pool.standing _ = p.standing at standing
    change p.spare + _ + _ ≤ _
    omega

end Moves

section Moves

variable {old new : WorkerPhase}

/-- A worker that waits or has ceased to count gives one of those who wait a chance. -/
theorem WorkerMove.supply (moves : WorkerMove p slot wakes old new q)
    (balanced : Balanced p) (now : p.workers[thread]? = some ⟨slot, old⟩) :
    q.closed = p.closed ∧ (q.waiters = 0 ∨ (q.waiters ≤ p.waiters ∧
      q.spare + q.waiters + old.signals.toNat ≤ p.spare + p.waiters + new.signals.toNat)) := by
  have quiet (loud : old.wakes = false) : q.waiters = p.waiters := by
    apply congrArg (List.count true)
    apply moves.views
    intro wakes
    rw [loud] at wakes
    cases wakes
  cases moves with
  | park opened woke =>
    have waiters := waiters_wakeOne woke
    have size : (p.idle.push slot p.clock).size = p.idle.size + 1 := List.length_append
    change _ ∨ Pool.waiters _ + 1 = p.waiters at waiters
    refine ⟨rfl, waiters.imp_right fun one => ⟨by omega, ?_⟩⟩
    change (p.idle.push slot p.clock).size + p.free + _ + 0 ≤ p.idle.size + p.free + _ + 0
    omega
  | leave woke =>
    have waiters := waiters_wakeOne woke
    refine ⟨rfl, waiters.imp_right fun one => ⟨Nat.le_of_succ_le (Nat.le_of_eq one), ?_⟩⟩
    change p.spare + Pool.waiters _ + 1 ≤ p.spare + p.waiters + 0
    change Pool.waiters _ + 1 = p.waiters at one
    omega
  | lower =>
    have bounded := balanced.bounded
    have lowered := lowered_of_pos (balanced.counted_pos now rfl)
    refine ⟨rfl, .inr ⟨Nat.le_refl _, ?_⟩⟩
    change p.idle.size + (p.plan.capacity - Pool.lowered p.running) + p.waiters + 0 ≤
      p.idle.size + (p.plan.capacity - p.running) + p.waiters + 1
    omega
  | giveSlot =>
    have waiters := quiet rfl
    rw [waiters]
    exact ⟨rfl, .inr ⟨Nat.le_refl _, Nat.le_refl _⟩⟩
  | _ => exact ⟨rfl, .inr ⟨Nat.le_refl _, Nat.le_refl _⟩⟩

theorem Served.workerMove (h : Served p) (balanced : Balanced p)
    (now : p.workers[thread]? = some ⟨slot, old⟩) (moves : WorkerMove p slot wakes old new q) :
    Served (q.setWorker thread new) := by
  have rousers : q.callsIn Phase.rouses = p.callsIn Phase.rouses :=
    congrArg (List.count true) (moves.views fun _ => blind_rouses)
  have standing : (q.setWorker thread new).standing + old.signals.toNat =
      p.standing + new.signals.toNat := moves.tally _ now fun _ => blind_stands
  obtain ⟨closed, supply⟩ := moves.supply balanced now
  refine h.of_supply (Nat.le_of_eq rousers.symm) closed (supply.imp_right fun ⟨fewer, supply⟩ =>
    ⟨fewer, ?_⟩)
  change q.spare + q.waiters + _ ≤ _
  omega

end Moves

theorem Served.sweeperMove {epoch : Nat} {old new : SweeperPhase} (h : Served p)
    (moves : SweeperMove p epoch old new q) : Served (q.setSweeper thread new) := by
  cases moves with
  | @evict tick next dismissed kept slots opened current due late stopped =>
    have size := Roster.size_sweep due
    refine h.of_supply (Nat.le_refl _) rfl (.inr ⟨Nat.le_refl _, ?_⟩)
    change kept.size + p.free + p.waiters + p.standing ≤ p.idle.size + p.free + p.waiters + p.standing
    omega
  | _ => exact h

theorem Served.invoke (h : Served p) (op : Op) :
    Served ({ p with calls := p.calls ++ [{ op, phase := op.firstPhase }] } : Pool α) := by
  have rousers := callsIn_invoke p { op, phase := op.firstPhase } Phase.rouses
  have waiters := callsIn_invoke p { op, phase := op.firstPhase } Phase.isWaiting
  have standing := tally_invoke p { op, phase := op.firstPhase } Phase.stands (·.phase.signals)
  have awake : op.firstPhase.isWaiting = false := by cases op <;> rfl
  rw [awake] at waiters
  refine h.of_supply (by omega) rfl (.inr ⟨Nat.le_of_eq waiters, ?_⟩)
  change Pool.waiters _ = p.waiters at waiters
  change Pool.standing _ = p.standing + _ at standing
  change p.spare + _ + _ ≤ _
  omega

theorem Served.stir {since : Nat} (h : Served p) (now : p.phase? call = some (.waiting since)) :
    Served (p.rouse call) := by
  have waiters := waiters_rouse (isWaiting_iff.mpr ⟨since, now⟩)
  have standing : (p.rouse call).standing = p.standing := tally_rouse blind_stands p call _
  have rousers : (p.rouse call).callsIn Phase.rouses = p.callsIn Phase.rouses :=
    congrArg (List.count true) (views_rouse blind_rouses p call)
  refine h.of_supply (Nat.le_of_eq rousers.symm) rfl (.inr ⟨by omega, ?_⟩)
  change p.spare + _ + _ ≤ _
  omega

theorem Served.finish {task : Nat} (h : Served p)
    (now : p.workers[thread]? = some ⟨slot, .executing task⟩) (outcome : Outcome α) :
    Served ((p.setCell task outcome.cell).setWorker thread outcome.aftermath) := by
  have kept (kind : Phase → Bool) : (p.setCell task outcome.cell).callsIn kind = p.callsIn kind :=
    congrArg (List.count true) (views_setCell ..)
  have silent : outcome.aftermath.signals = false := by cases outcome <;> rfl
  have standing := tally_finish Phase.stands (·.phase.signals) outcome now
  rw [silent] at standing
  refine h.of_supply (Nat.le_of_eq (kept _).symm) rfl (.inr ⟨Nat.le_of_eq (kept _), ?_⟩)
  have waiters : (p.setCell task outcome.cell).waiters = p.waiters := kept _
  change Pool.standing _ = p.standing at standing
  change p.spare + Pool.waiters (p.setCell task outcome.cell) + _ ≤ _
  omega

theorem Served.move {label : Label α} (h : Served p) (balanced : Balanced p)
    (moves : p.Move label q) : Served q := by
  cases moves with
  | pass | stirSweeper => exact h
  | invoke => exact h.invoke _
  | call now moves => exact h.callMove balanced now moves
  | thread now moves => exact h.threadMove now moves
  | stir now => exact h.stir now
  | worker now moves => exact h.workerMove balanced now moves
  | finish now => exact h.finish now _
  | sweeper now moves => exact h.sweeperMove moves

theorem Reachable.served (reached : Reachable plan p) : Served p :=
  reached.induction (P := Served) (fun _ none => absurd none (Nat.lt_irrefl 0))
    fun before h moves => h.move before.balanced moves

/-- Whether a worker executes a task, waits at an empty channel, or has no thread any more. -/
def workerRests (p : Pool α) (w : Worker) : Bool :=
  match w.phase with
  | .executing _ | .gone | .fallen => true
  | .receiving => (p.slots.channel w.slot).queue.isEmpty
  | _ => false

/-- Nothing happens any more before a task ends or a call is made. -/
structure Quiescent (p : Pool α) : Prop where
  calls : ∀ c ∈ p.calls, c.phase.rests = true
  workers : ∀ w ∈ p.workers, p.workerRests w = true

instance (p : Pool α) : Decidable (Quiescent p) :=
  decidable_of_iff ((∀ c ∈ p.calls, c.phase.rests = true) ∧ ∀ w ∈ p.workers, p.workerRests w = true)
    ⟨fun ⟨calls, workers⟩ => ⟨calls, workers⟩, fun ⟨calls, workers⟩ => ⟨calls, workers⟩⟩

theorem Quiescent.callsIn_eq_zero {kind : Phase → Bool} (quiet : Quiescent p)
    (h : ∀ phase : Phase, phase.rests = true → kind phase = false) : p.callsIn kind = 0 :=
  Pool.callsIn_eq_zero fun c made => h _ (quiet.calls c made)

theorem Quiescent.workersIn_congr (quiet : Quiescent p) (kind other : WorkerPhase → Bool)
    (receiving : kind .receiving = other .receiving)
    (executing : ∀ task, kind (.executing task) = other (.executing task))
    (gone : kind .gone = other .gone) (fallen : kind .fallen = other .fallen) :
    p.workersIn (kind ·.phase) = p.workersIn (other ·.phase) := by
  apply List.countP_congr
  intro w member
  have rests := quiet.workers w member
  obtain ⟨slot, phase⟩ := w
  cases phase with
  | receiving => rw [receiving]
  | executing task => rw [executing]
  | gone => rw [gone]
  | fallen => rw [fallen]
  | _ => cases rests

theorem Quiescent.workersIn_eq_zero (quiet : Quiescent p) (kind : WorkerPhase → Bool)
    (receiving : kind .receiving = false) (executing : ∀ task, kind (.executing task) = false)
    (gone : kind .gone = false) (fallen : kind .fallen = false) : p.workersIn (kind ·.phase) = 0 :=
  (quiet.workersIn_congr kind (fun _ => false) receiving executing gone fallen).trans
    (List.countP_eq_zero.mpr fun _ _ => Bool.false_ne_true)

theorem Quiescent.standing_eq (quiet : Quiescent p) : p.standing = p.waiters := by
  have calls : p.callsIn Phase.stands =
      p.callsIn Phase.isWaiting + p.callsIn fun phase => phase.stands && !phase.isWaiting :=
    callsIn_add (fun phase => by cases phase <;> rfl) p
  have others : (p.callsIn fun phase => phase.stands && !phase.isWaiting) = 0 :=
    quiet.callsIn_eq_zero fun phase rests => by cases phase <;> first | rfl | cases rests
  have workers : p.workersIn (·.phase.signals) = 0 :=
    quiet.workersIn_eq_zero WorkerPhase.signals rfl (fun _ => rfl) rfl rfl
  unfold standing waiters tally
  omega

theorem exists_wakeOne (p : Pool α) : ∃ wakes q, p.wakeOne wakes = some q := by
  by_cases nobody : p.someoneWaits = true
  · obtain ⟨c, member, waits⟩ := List.any_eq_true.mp nobody
    obtain ⟨call, made⟩ := List.mem_iff_getElem?.mp member
    have waiting : p.isWaiting call = true := by simp [isWaiting, phase?, made, waits]
    exact ⟨some call, p.rouse call, by simp [wakeOne, waiting]⟩
  · exact ⟨none, p, by simp [wakeOne, nobody]⟩

/-- A call that has not returned takes its next step, unless it waits. -/
theorem Tokens.exists_callStep {phase : Phase} (h : Tokens p) (now : p.phase? call = some phase)
    (moves : phase.rests = false) :
    (∃ wakes, (p.step (.call call wakes)).isSome) ∨ (p.step (.thread call true)).isSome := by
  cases phase with
  | waiting | returned => cases moves
  | starting | reopened =>
    right
    simp [step, now, threadStep]
  | holding => exact .inl ⟨none, h.step_holding now⟩
  | closing => exact .inl ⟨none, h.step_closing now⟩
  | passingOn =>
    obtain ⟨wakes, woken, woke⟩ := exists_wakeOne p
    exact .inl ⟨wakes, by simp [step, now, callStep, woke]⟩
  | _ => exact .inl ⟨none, by simp [step, now, callStep]⟩

theorem exists_workerStep {w : Worker} (now : p.workers[thread]? = some w)
    (moves : p.workerRests w = false) : ∃ wakes, (p.step (.worker thread wakes)).isSome := by
  obtain ⟨slot, phase⟩ := w
  cases phase with
  | executing | gone | fallen => cases moves
  | receiving =>
    refine ⟨none, ?_⟩
    cases queue : (p.slots.channel slot).queue with
    | nil => simp [workerRests, queue] at moves
    | cons m rest =>
      cases m <;> simp [step, now, workerStep, Slots.receive, Channel.receive, queue]
  | parking =>
    obtain ⟨wakes, woken, woke⟩ := exists_wakeOne (p.setIdle (p.idle.push slot p.clock))
    refine ⟨wakes, ?_⟩
    simp only [step, now, Option.bind_some, workerStep, park, woke]
    split <;> rfl
  | leaving =>
    obtain ⟨wakes, woken, woke⟩ := exists_wakeOne p
    exact ⟨wakes, by simp [step, now, workerStep, woke]⟩
  | _ => exact ⟨none, by simp [step, now, workerStep]⟩

theorem Quiescent.step_call (quiet : Quiescent p) (call : Nat) (wakes : Option Nat) (granted : Bool) :
    p.step (.call call wakes) = none ∧ p.step (.thread call granted) = none := by
  cases made : p.calls[call]? with
  | none => simp [step, phase?, made]
  | some c =>
    have rests := quiet.calls c (List.mem_of_getElem? made)
    cases phase : c.phase <;> rw [phase] at rests <;> try cases rests
    all_goals simp [step, phase?, made, phase, callStep, threadStep]

theorem Quiescent.step_worker (quiet : Quiescent p) (thread : Nat) (wakes : Option Nat) :
    p.step (.worker thread wakes) = none := by
  cases now : p.workers[thread]? with
  | none => simp [step, now]
  | some w =>
    have rests := quiet.workers w (List.mem_of_getElem? now)
    obtain ⟨slot, phase⟩ := w
    cases phase with
    | executing | gone | fallen => simp [step, now, workerStep]
    | receiving =>
      have empty := List.isEmpty_iff.mp rests
      simp [step, now, workerStep, Slots.receive, Channel.receive, empty]
    | _ => cases rests

/-- A pool is at rest when no call and no worker can take a step; it never gets stuck before. -/
theorem quiescent_iff (reached : Reachable plan p) :
    Quiescent p ↔
      (∀ call wakes granted, p.step (.call call wakes) = none ∧ p.step (.thread call granted) = none) ∧
        ∀ thread wakes, p.step (.worker thread wakes) = none := by
  refine ⟨fun quiet => ⟨quiet.step_call, quiet.step_worker⟩, fun ⟨calls, workers⟩ => ⟨?_, ?_⟩⟩
  · intro c member
    obtain ⟨call, made⟩ := List.mem_iff_getElem?.mp member
    cases rests : c.phase.rests with
    | true => rfl
    | false =>
      have now : p.phase? call = some c.phase := by rw [phase?, made, Option.map_some]
      rcases reached.tokens.exists_callStep now rests with ⟨wakes, moves⟩ | moves
      · rw [(calls call wakes true).1] at moves
        cases moves
      · rw [(calls call none true).2] at moves
        cases moves
  · intro w member
    obtain ⟨thread, now⟩ := List.mem_iff_getElem?.mp member
    cases rests : p.workerRests w with
    | true => rfl
    | false =>
      obtain ⟨wakes, moves⟩ := exists_workerStep now rests
      rw [workers thread wakes] at moves
      cases moves

/-- There is nothing in any channel, as whoever listens would take it out. -/
theorem Quiescent.pending (quiet : Quiescent p) (tokens : Tokens p) (slot : Nat) :
    p.slots.pending slot = 0 := by
  apply Nat.eq_zero_of_not_pos
  intro some
  have listens : 0 < p.listeners slot := by
    rw [tokens.listeners_eq, stock]
    omega
  obtain ⟨⟨other, phase⟩, member, listens⟩ := List.countP_pos_iff.mp listens
  obtain ⟨waits, same⟩ := Bool.and_eq_true_iff.mp listens
  have same : other = slot := beq_iff_eq.mp same
  subst same
  have rests := quiet.workers _ member
  cases phase with
  | receiving =>
    rw [Slots.pending, List.isEmpty_iff.mp rests] at some
    cases some
  | beginning => cases rests
  | _ => cases waits

/-- The workers that listen are those in the roster. -/
theorem Quiescent.listening (quiet : Quiescent p) (tokens : Tokens p) :
    p.workersIn (·.phase.listens) = p.idle.size := by
  have same : ((p.workers.filter (·.phase.listens)).map (·.slot)).Perm p.idle.workers := by
    apply List.perm_iff_count.mpr
    intro slot
    have kept : p.callsIn (Phase.keeps slot) = 0 :=
      quiet.callsIn_eq_zero fun phase rests => by cases phase <;> first | rfl | cases rests
    have listeners := tokens.listeners_eq slot
    rw [stock, quiet.pending tokens, kept] at listeners
    exact (count_slots p WorkerPhase.listens slot).trans listeners
  rw [← Roster.length_workers, ← same.length_eq, List.length_map, ← List.countP_eq_length_filter]
  rfl

theorem Quiescent.counted_eq (quiet : Quiescent p) (tokens : Tokens p) :
    p.counted = p.idle.size + p.executing + p.fallen.length := by
  have up : (p.workersIn fun w => w.phase.listens || w.phase.isExecuting) =
      p.workersIn (·.phase.listens) + p.executing :=
    workersIn_add (fun w => by cases w.phase <;> rfl) p
  have all : (p.workersIn fun w => (w.phase.listens || w.phase.isExecuting) || w.phase.isFallen) =
      (p.workersIn fun w => w.phase.listens || w.phase.isExecuting) + p.workersIn (·.phase.isFallen) :=
    workersIn_add (fun w => by cases w.phase <;> rfl) p
  have same : p.counted = p.workersIn fun w =>
      (w.phase.listens || w.phase.isExecuting) || w.phase.isFallen :=
    quiet.workersIn_congr WorkerPhase.counts
      (fun phase => (phase.listens || phase.isExecuting) || phase.isFallen) rfl (fun _ => rfl) rfl rfl
  rw [same, all, up, quiet.listening tokens, length_fallen]

theorem Quiescent.running_eq (quiet : Quiescent p) (balanced : Balanced p) :
    p.running = p.counted := by
  have accounts : p.running = p.reservations + p.counted := balanced.accounts
  have reserved : p.reservations = 0 :=
    quiet.callsIn_eq_zero fun phase rests => by cases phase <;> first | rfl | cases rests
  omega

/-- A call that still waits when nothing happens any more waits for tasks and for workers that have fallen,
and in a gentle run for tasks alone. -/
theorem no_lost_wakeup {since : Nat} (built : build plan true = .ok start)
    (ran : start.run labels = some p) (quiet : Quiescent p)
    (blocked : p.phase? call = some (.waiting since)) :
    p.closed = false ∧ p.idle.parked = [] ∧ p.running = plan.capacity ∧
      p.executing + p.fallen.length = plan.capacity ∧
      (∀ w ∈ p.workers, w.phase = .gone ∨ w.phase = .fallen ∨ ∃ task, w.phase = .executing task) ∧
      (Gentle plan labels → p.executing = plan.capacity ∧
        ∀ w ∈ p.workers, w.phase = .gone ∨ ∃ task, w.phase = .executing task) := by
  have reached : Reachable plan p := ⟨start, labels, built, ran⟩
  have waits : 0 < p.waiters := callsIn_pos blocked rfl
  have nobody_rouses : p.callsIn Phase.rouses = 0 :=
    quiet.callsIn_eq_zero fun phase rests => by cases phase <;> first | rfl | cases rests
  rcases reached.served waits with rousing | ⟨opened, enough⟩
  · omega
  have standing := quiet.standing_eq
  have empty : p.idle.size = 0 := by
    unfold spare at enough
    omega
  have full : p.running = plan.capacity := by
    have bounded := reached.balanced.bounded
    unfold spare free at enough
    rw [reached.plan_eq] at bounded enough
    omega
  have running := quiet.running_eq reached.balanced
  have counted := quiet.counted_eq reached.tokens
  have ended (w : Worker) (member : w ∈ p.workers) :
      w.phase = .gone ∨ w.phase = .fallen ∨ ∃ task, w.phase = .executing task := by
    have rests := quiet.workers w member
    have deaf : w.phase.listens = false := by
      have listening := (quiet.listening reached.tokens).trans empty
      exact Bool.eq_false_iff.mpr (List.countP_eq_zero.mp listening w member)
    unfold workerRests at rests
    cases phase : w.phase <;> simp_all [WorkerPhase.listens]
  refine ⟨opened, List.length_eq_zero_iff.mp empty, full, by omega, ended, fun gentle => ?_⟩
  have up := fallen_eq_nil built ran gentle
  rw [up, List.length_nil] at counted
  refine ⟨by omega, fun w member => ?_⟩
  rcases ended w member with gone | fallen | executing
  · exact .inl gone
  · have here : 0 < p.fallen.length := by
      rw [length_fallen]
      exact List.countP_pos_iff.mpr ⟨w, member, by rw [fallen]; rfl⟩
    rw [up] at here
    cases here
  · exact .inr executing

theorem no_lost_wakeup_after_stir : ∃ (start p : Pool Unit) (labels : List (Label Unit)),
    build { capacity := 2 } true = .ok start ∧ start.run labels = some p ∧ Gentle { capacity := 2 } labels ∧
    Quiescent p ∧ p.phase? 3 = some (.waiting 0) ∧
    p.phase? 0 = some (.returned (.failed (.spawn refusalReason))) ∧
    p.closed = false ∧ p.idle.parked = [] ∧ p.running = 2 ∧ p.executing = 2 := by
  let refused : List (Label Unit) :=
    [.invoke .submit, .call 0 none, .call 0 none, .thread 0 false, .call 0 none, .call 0 none]
  let labels : List (Label Unit) :=
    refused ++ hiring 1 0 ++ hiring 2 1 ++ [.invoke .submit, .call 3 none, .stir 3, .call 3 none]
  let start : Pool Unit := fresh Unit { capacity := 2 }
  have built : build { capacity := 2 } true = .ok start := rfl
  have gentle : Gentle { capacity := 2 } labels := by decide
  have seen : (start.run labels).any (fun p => Quiescent p ∧ p.phase? 3 = some (.waiting 0) ∧
      p.phase? 0 = some (.returned (.failed (.spawn refusalReason)))) = true := by decide
  obtain ⟨p, ran, seen⟩ := (Option.any_eq_true _ _).mp seen
  obtain ⟨quiet, blocked, failed⟩ := of_decide_eq_true seen
  obtain ⟨opened, nobody, full, -, -, mild⟩ := no_lost_wakeup built ran quiet blocked
  exact ⟨start, p, labels, built, ran, gentle, quiet, blocked, failed, opened, nobody, full,
    (mild gentle).1⟩

/-- A call waits for the only worker of an open pool, which has fallen, and nothing happens any more. -/
theorem submission_behind_fallen_worker : ∃ p : Pool Unit, Reachable { capacity := 1 } p ∧ Quiescent p ∧
    p.phase? 1 = some (.waiting 0) ∧ p.closed = false ∧ p.executing = 0 := by
  obtain ⟨p, reached, seen⟩ := exists_reachable { capacity := 1 }
    (falling ++ [.invoke .submit, .call 1 none] : List (Label Unit))
    (fun p => Quiescent p ∧ p.phase? 1 = some (.waiting 0) ∧ p.closed = false ∧ p.executing = 0)
    (by decide)
  exact ⟨p, reached, of_decide_eq_true seen⟩

end Pool
end WorkerPool
