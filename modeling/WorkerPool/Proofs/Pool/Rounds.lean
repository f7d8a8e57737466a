import WorkerPool.Proofs.Pool.Eviction

/-!
# Rounds of a sweeper

A sweeper has two reasons to make a round, its own tick and the longest waiting worker, and goes over
to the next round at once when it has not slept. It does not go round and round: a round that does not
end in sleep takes away both reasons, so that the next one sleeps unless time has gone by. This does
not depend on how the roster has come about, only on its order, and holds even if some of its workers
are to begin their wait in the future.
-/

namespace WorkerPool

namespace Roster

variable {r kept : Roster} {expiry now tick next deadline : Nat} {dismissed : List Nat}

/-- A round comes before the tick only for the sake of the worker at the front, who has expired. -/
theorem dismissed_ne_nil (h : r.sweep expiry now tick = .pass next dismissed kept)
    (early : now < tick) (positive : 0 < expiry) : dismissed ≠ [] := by
  obtain ⟨⟨deadline, front, due⟩, -, evicted⟩ := sweep_eq_pass_iff.mp h
  obtain ⟨-, rfl⟩ := deadline?_eq_some_iff.mp front
  obtain ⟨rfl, -⟩ := Prod.mk.inj evicted
  obtain ⟨parked⟩ := r
  cases parked with
  | nil => exact absurd due (Nat.not_le_of_lt early)
  | cons first others =>
    have due : min (first.since + expiry) tick ≤ now := due
    have late : first.since + expiry ≤ now := by omega
    simp [(Parked.expired_iff positive).mpr late]

/-- Nothing is due before the deadline. -/
theorem lt_deadline (young : ∀ e ∈ r.parked, now < e.since + expiry) (ahead : now < tick)
    (h : r.deadline? expiry tick = some deadline) : now < deadline := by
  obtain ⟨-, rfl⟩ := deadline?_eq_some_iff.mp h
  obtain ⟨parked⟩ := r
  cases parked with
  | nil => exact ahead
  | cons first others => exact Nat.lt_min.mpr ⟨young first List.mem_cons_self, ahead⟩

/-- With nothing due a round dismisses nobody. -/
theorem sweep_of_young (young : ∀ e ∈ r.parked, now < e.since + expiry) (ahead : now < tick) :
    (∃ deadline, now < deadline ∧ r.sweep expiry now tick = .sleep deadline) ∨
      r.sweep expiry now tick = .fall := by
  cases h : r.deadline? expiry tick with
  | none => exact .inr (by rw [sweep, h])
  | some deadline =>
    have early := lt_deadline young ahead h
    exact .inl ⟨deadline, early, sweep_eq_sleep_iff.mpr ⟨early, h⟩⟩

end Roster

namespace Pool

variable {α : Type} {p q : Pool α} {thread tick : Nat}

theorem stopAll_append {slots : Slots (Message Nat)} {first others : List Nat} :
    stopAll slots (first ++ others) = (stopAll slots first).bind fun told => stopAll told others := by
  induction first generalizing slots with
  | nil => rfl
  | cons worker first ih =>
    simp only [List.cons_append, stopAll]
    split
    · rfl
    · exact ih

/-- Whether no moment that the rounds of a sweeper need now is behind the last. -/
structure Timely (p : Pool α) : Prop where
  now : p.clock + p.plan.expiry.nanos ≤ lastMoment
  parked : ∀ e ∈ p.idle.parked, e.since + p.plan.expiry.nanos ≤ lastMoment

theorem Timely.sweep_ne_fall (h : Timely p) :
    p.idle.sweep p.plan.expiry.nanos p.clock tick ≠ .fall :=
  Roster.sweep_ne_fall (fun e first => h.parked e (List.mem_of_mem_head? first)) h.now

/-- What a round comes to that ends neither in sleep nor in a fall: the tick moves on or workers are
dismissed from the front, and all that is left lies ahead. -/
structure Onward (p : Pool α) (thread tick : Nat) (q : Pool α) (next : Nat) : Prop where
  awake : q.sweepers[thread]? = some ⟨p.epoch, .awake next⟩
  plan : q.plan = p.plan
  opened : q.closed = false
  epoch : q.epoch = p.epoch
  clock : q.clock = p.clock
  forward : tick ≤ next
  moved : ∃ dismissed : List Parked, p.idle.parked = dismissed ++ q.idle.parked ∧
    stopAll p.slots (dismissed.map (·.worker)) = some q.slots ∧ (tick < next ∨ dismissed ≠ [])
  ahead : p.clock < next
  young : ∀ e ∈ q.idle.parked, p.clock < e.since + p.plan.expiry.nanos

/-- Such a round is followed, at the same moment, by one that sleeps. -/
structure Advance (p : Pool α) (thread tick : Nat) (q : Pool α) (next : Nat) : Prop
    extends Onward p thread tick q next where
  sleeps : ∃ deadline, q.clock < deadline ∧
    q.step (.sweeper thread) = some (q.setSweeper thread (.asleep next deadline))

theorem setSweeper_getElem? {s : Sweeper} (now : p.sweepers[thread]? = some s) (phase : SweeperPhase) :
    (p.setSweeper thread phase).sweepers[thread]? = some { s with phase } := by
  simp [setSweeper, now]

/-- With nothing due a round ends in sleep or in a fall. -/
theorem step_sweeper_rests (now : p.sweepers[thread]? = some ⟨p.epoch, .awake tick⟩)
    (opened : p.closed = false) (young : ∀ e ∈ p.idle.parked, p.clock < e.since + p.plan.expiry.nanos)
    (ahead : p.clock < tick) :
    (∃ deadline, p.clock < deadline ∧
      p.step (.sweeper thread) = some (p.setSweeper thread (.asleep tick deadline))) ∨
    (¬Timely p ∧ p.step (.sweeper thread) = some (p.setSweeper thread .fallen)) := by
  have stepped : p.step (.sweeper thread) = p.sweepStep thread tick := by
    simp [step, now, sweeperStep, opened]
  rw [stepped, sweepStep]
  rcases Roster.sweep_of_young young ahead with ⟨deadline, early, sleeps⟩ | falls
  · exact .inl ⟨deadline, early, by rw [sleeps]⟩
  · exact .inr ⟨fun timely => timely.sweep_ne_fall falls, by rw [falls]⟩

/-- Whoever can tell all waiting workers to stop can tell those that a round dismisses. -/
theorem step_awake_isSome (now : p.sweepers[thread]? = some ⟨p.epoch, .awake tick⟩)
    (opened : p.closed = false) (sorted : p.idle.parked.Pairwise fun a b => a.since ≤ b.since)
    (positive : 0 < p.plan.expiry.nanos) (told : (stopAll p.slots p.idle.workers).isSome) :
    (p.step (.sweeper thread)).isSome := by
  simp only [step, now, Option.bind_some, sweeperStep, opened, sweepStep]
  rw [if_neg (by simp)]
  split
  · rfl
  · rfl
  · rename_i next dismissed kept due
    obtain ⟨expired, rfl, parts, -⟩ := Roster.sweep_eq_pass due sorted positive
    split
    · rfl
    · rw [Roster.workers, parts, List.map_append, stopAll_append] at told
      rw [Option.isSome_map]
      exact Option.isSome_of_isSome_bind told

/-- A round ends in sleep, or goes on, or ends in a fall. -/
theorem sweeper_round (now : p.sweepers[thread]? = some ⟨p.epoch, .awake tick⟩)
    (opened : p.closed = false) (sorted : p.idle.parked.Pairwise fun a b => a.since ≤ b.since)
    (positive : 0 < p.plan.expiry.nanos) (moves : p.Move (.sweeper thread) q) :
    (∃ deadline, p.clock < deadline ∧ q = p.setSweeper thread (.asleep tick deadline)) ∨
      (∃ next, p.Onward thread tick q next) ∨ (¬Timely p ∧ q = p.setSweeper thread .fallen) := by
  cases moves with
  | @sweeper _ _ _ new r present moves =>
    obtain ⟨rfl, rfl⟩ := Sweeper.mk.inj (Option.some.inj (present.symm.trans now))
    cases moves with
    | leave leaves => simp [opened] at leaves
    | sleep opened current early =>
      obtain ⟨early, -⟩ := Roster.sweep_eq_sleep_iff.mp early
      exact .inl ⟨_, early, rfl⟩
    | @skip _ next kept opened current due =>
      obtain ⟨dismissed, nobody, parts, -, young⟩ := Roster.sweep_eq_pass due sorted positive
      obtain rfl := List.map_eq_nil_iff.mp nobody.symm
      rw [List.nil_append] at parts
      -- Nobody is dismissed, so it was the tick that was due.
      have late : tick ≤ p.clock := by
        refine Nat.le_of_not_lt fun early => ?_
        exact Roster.dismissed_ne_nil due early positive rfl
      have same := Roster.next_cases due
      have ahead : p.clock < next := by omega
      have moved : tick < next := by omega
      rw [← parts] at young
      exact .inr (.inl ⟨next, setSweeper_getElem? now _, rfl, opened, rfl, rfl, Nat.le_of_lt moved,
        ⟨[], rfl, rfl, .inl moved⟩, ahead, young⟩)
    | @evict _ next dismissed kept slots opened current due late told =>
      obtain ⟨gone, rfl, parts, -, young⟩ := Roster.sweep_eq_pass due sorted positive
      have same := Roster.next_cases due
      have ahead : p.clock < next := by omega
      have fewer : gone ≠ [] := fun nobody => late (by rw [nobody]; rfl)
      exact .inr (.inl ⟨next, setSweeper_getElem? now _, rfl, opened, rfl, rfl, by omega,
        ⟨gone, parts, told, .inr fewer⟩, ahead, young⟩)
    | fall opened current beyond =>
      exact .inr (.inr ⟨fun timely => timely.sweep_ne_fall beyond, rfl⟩)

theorem Onward.timely {next : Nat} (h : p.Onward thread tick q next) (timely : Timely p) :
    Timely q := by
  obtain ⟨dismissed, parts, -⟩ := h.moved
  constructor
  · rw [h.clock, h.plan]
    exact timely.now
  · intro e member
    rw [h.plan]
    exact timely.parked e (parts ▸ List.mem_append_right _ member)

/-- After a round that goes on there is nothing due at the same moment. -/
theorem Onward.rests {next : Nat} (h : p.Onward thread tick q next) :
    (∃ deadline, q.clock < deadline ∧
      q.step (.sweeper thread) = some (q.setSweeper thread (.asleep next deadline))) ∨
    (¬Timely q ∧ q.step (.sweeper thread) = some (q.setSweeper thread .fallen)) := by
  apply step_sweeper_rests
  · rw [h.epoch]
    exact h.awake
  · exact h.opened
  · rw [h.clock, h.plan]
    exact h.young
  · rw [h.clock]
    exact h.ahead

theorem Onward.advance {next : Nat} (h : p.Onward thread tick q next) (timely : Timely p) :
    p.Advance thread tick q next :=
  ⟨h, h.rests.resolve_right fun fell => fell.1 (h.timely timely)⟩

/-- A sweeper that sleeps or has fallen takes no step. -/
theorem step_rests {epoch : Nat} {phase : SweeperPhase} (rests : phase.rests = true)
    (now : p.sweepers[thread]? = some ⟨epoch, phase⟩) : p.step (.sweeper thread) = none := by
  cases phase with
  | beginning | awake => cases rests
  | asleep | gone | fallen => simp [step, now, sweeperStep]

theorem run_rounds_rests {s : Sweeper} {phase : SweeperPhase} {rounds : Nat}
    (now : p.sweepers[thread]? = some s) (rests : phase.rests = true)
    (ran : (p.setSweeper thread phase).run (List.replicate rounds (.sweeper thread)) = some q) :
    rounds = 0 := by
  cases rounds with
  | zero => rfl
  | succ rounds =>
    rw [List.replicate_succ, run, step_rests rests (setSweeper_getElem? now phase)] at ran
    cases ran

/-- After a round that goes on there is one more at the most. -/
theorem Onward.rounds_le {next rounds : Nat} {r : Pool α} (h : p.Onward thread tick q next)
    (ran : q.run (List.replicate rounds (.sweeper thread)) = some r) : rounds ≤ 1 := by
  cases rounds with
  | zero => exact Nat.zero_le 1
  | succ rounds =>
    obtain ⟨phase, rests, stepped⟩ : ∃ phase : SweeperPhase, phase.rests = true ∧
        q.step (.sweeper thread) = some (q.setSweeper thread phase) := by
      rcases h.rests with ⟨deadline, -, stepped⟩ | ⟨-, stepped⟩
      · exact ⟨_, rfl, stepped⟩
      · exact ⟨_, rfl, stepped⟩
    rw [List.replicate_succ, run_cons stepped] at ran
    exact Nat.le_of_eq (congrArg Nat.succ (run_rounds_rests h.awake rests ran))

/-- A sweeper of an open pool can make its round whenever the workers in the roster can be told to stop.
As long as the moments it needs are not behind the last, the round ends in sleep or advances. While no
time goes by it is the last or the last but one. -/
theorem rounds_advance (now : p.sweepers[thread]? = some ⟨p.epoch, .awake tick⟩)
    (opened : p.closed = false) (sorted : p.idle.parked.Pairwise fun a b => a.since ≤ b.since)
    (positive : 0 < p.plan.expiry.nanos) :
    ((stopAll p.slots p.idle.workers).isSome → (p.step (.sweeper thread)).isSome) ∧
    (Timely p → ∀ q, p.step (.sweeper thread) = some q →
      (∃ deadline, p.clock < deadline ∧ q = p.setSweeper thread (.asleep tick deadline)) ∨
        ∃ next, p.Advance thread tick q next) ∧
    ∀ rounds q, p.run (List.replicate rounds (.sweeper thread)) = some q → rounds ≤ 2 := by
  refine ⟨fun told => ?_, fun timely q stepped => ?_, fun rounds q ran => ?_⟩
  · exact step_awake_isSome now opened sorted positive told
  · rcases sweeper_round now opened sorted positive (.of_step stepped) with
      asleep | ⟨next, h⟩ | ⟨late, -⟩
    · exact .inl asleep
    · exact .inr ⟨next, h.advance timely⟩
    · exact absurd timely late
  · cases rounds with
    | zero => exact Nat.zero_le 2
    | succ rounds =>
      rw [List.replicate_succ, run] at ran
      obtain ⟨r, stepped, ran⟩ := Option.bind_eq_some_iff.mp ran
      rcases sweeper_round now opened sorted positive (.of_step stepped) with
        ⟨deadline, -, rfl⟩ | ⟨next, h⟩ | ⟨-, rfl⟩
      · have none := run_rounds_rests now rfl ran
        omega
      · exact Nat.succ_le_succ (h.rounds_le ran)
      · have none := run_rounds_rests now rfl ran
        omega

/-- The tick is past, one of three waiting workers has expired, and one is to begin its wait only later.
The round dismisses the first, and the next one sleeps until the second expires. -/
theorem rounds_advance_past_tick : ∃ p q : Pool Unit, p.plan.expiry.nanos = 10 ∧ p.clock = 15 ∧
    p.closed = false ∧ p.sweepers = [⟨0, .awake 12⟩] ∧
    p.idle.parked = [⟨0, 5⟩, ⟨1, 12⟩, ⟨2, 40⟩] ∧ p.step (.sweeper 0) = some q ∧
    q.idle.parked = [⟨1, 12⟩, ⟨2, 40⟩] ∧ p.Advance 0 12 q 25 ∧
    (q.step (.sweeper 0)).map (·.sweepers) = some [⟨0, .asleep 25 22⟩] := by
  let p : Pool Unit :=
    { fresh Unit { capacity := 3, expiry := ⟨10⟩ } with
      clock := 15
      sweepers := [⟨0, .awake 12⟩]
      idle := ⟨[⟨0, 5⟩, ⟨1, 12⟩, ⟨2, 40⟩]⟩
      slots := { channels := [{}, {}, {}] } }
  have present : p.sweepers[0]? = some ⟨p.epoch, .awake 12⟩ := rfl
  have timely : Timely p := ⟨by decide, by decide⟩
  obtain ⟨-, rounds, -⟩ := rounds_advance present rfl (by decide) (by decide)
  have seen : (p.step (.sweeper 0)).any (fun q => q.idle.parked = [⟨1, 12⟩, ⟨2, 40⟩] ∧
      q.sweepers = [⟨0, .awake 25⟩] ∧
      (q.step (.sweeper 0)).map (·.sweepers) = some [⟨0, .asleep 25 22⟩]) = true := by decide
  obtain ⟨q, stepped, seen⟩ := (Option.any_eq_true _ _).mp seen
  obtain ⟨kept, sweepers, next⟩ := of_decide_eq_true seen
  refine ⟨p, q, rfl, rfl, rfl, rfl, rfl, stepped, kept, ?_, next⟩
  rcases rounds timely q stepped with ⟨deadline, -, rfl⟩ | ⟨tick, h⟩
  · cases sweepers
  · have awake := h.awake
    rw [sweepers] at awake
    cases awake
    exact h

end Pool
end WorkerPool
