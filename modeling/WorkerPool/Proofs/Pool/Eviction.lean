import WorkerPool.Proofs.Pool.Handover
import WorkerPool.Proofs.Pool.Roster
import WorkerPool.Proofs.Pool.Sweepers

/-!
# Evictions in time

The roster says of each worker since when it waits, and that is the truth: the worker has been there
ever since, and was not there right before. A round of a sweeper dismisses those who have waited for
the expiry, the longest waiting first, and nobody else. A sweeper that sleeps wakes before anybody
expires, even one who has joined the roster since, as it never sleeps for longer than one expiry.
-/

namespace WorkerPool

/-- Whether the next regular round of a sweeper is at most one expiry away, and a sleep is over before
anybody in the roster expires. -/
def SweeperPhase.OnTime (roster : Roster) (expiry now : Nat) : SweeperPhase → Prop
  | .beginning | .gone | .fallen => True
  | .awake tick => tick ≤ now + expiry
  | .asleep tick deadline =>
    tick ≤ now + expiry ∧ deadline ≤ tick ∧ ∀ e ∈ roster.parked, deadline ≤ e.since + expiry

namespace SweeperPhase

variable {roster kept : Roster} {expiry now later : Nat} {phase : SweeperPhase}

theorem OnTime.mono (h : phase.OnTime roster expiry now) (some : kept.parked.Sublist roster.parked)
    (le : now ≤ later) : phase.OnTime kept expiry later := by
  cases phase with
  | beginning | gone | fallen => trivial
  | awake => exact Nat.le_trans h (Nat.add_le_add_right le _)
  | asleep =>
    obtain ⟨near, early, spares⟩ := h
    exact ⟨Nat.le_trans near (Nat.add_le_add_right le _), early,
      fun e member => spares e (some.subset member)⟩

/-- Who joins the roster now expires when an expiry has gone by, and the sleep is over by then. -/
theorem OnTime.push (h : phase.OnTime roster expiry now) (worker : Nat) :
    phase.OnTime (roster.push worker now) expiry now := by
  cases phase with
  | beginning | gone | fallen => trivial
  | awake => exact h
  | asleep =>
    obtain ⟨near, early, spares⟩ := h
    refine ⟨near, early, ?_⟩
    intro e member
    rcases List.mem_append.mp member with before | new
    · exact spares e before
    · obtain rfl := List.mem_singleton.mp new
      exact Nat.le_trans early near

theorem OnTime.rouse (h : phase.OnTime roster expiry now) : phase.rouse.OnTime roster expiry now := by
  cases phase with
  | asleep => exact h.1
  | _ => exact h

end SweeperPhase

namespace Pool

variable {α : Type} {plan : Plan} {p q r start : Pool α} {label : Label α} {labels : List (Label α)}
  {call thread slot worker since : Nat} {wakes : Option Nat} {e : Parked}

/-- Whether a worker has waited without a break in a run since a moment: at that moment of the run it
was in the roster, and it was there after every later step. -/
inductive Waits (start : Pool α) (worker since : Nat) : List (Label α) → Pool α → Prop
  | begin {labels : List (Label α)} {p : Pool α} (ran : start.run labels = some p) (here : worker ∈ p.idle.workers)
      (now : p.clock = since) : Waits start worker since labels p
  | stay {labels : List (Label α)} {p q : Pool α} {label : Label α}
      (before : Waits start worker since labels p) (stepped : p.step label = some q)
      (here : worker ∈ q.idle.workers) : Waits start worker since (labels ++ [label]) q

theorem mem_workers (member : e ∈ p.idle.parked) : e.worker ∈ p.idle.workers :=
  List.mem_map_of_mem member

theorem Waits.here (h : Waits start worker since labels p) : worker ∈ p.idle.workers := by
  cases h with
  | begin _ here => exact here
  | stay _ _ here => exact here

/-- What holds before a row of steps, and survives every further step of it, holds after the row. -/
theorem run_induction {P : List (Label α) → Pool α → Prop} (ran : start.run labels = some p)
    (first : P [] start)
    (step : ∀ {labels q label r}, start.run labels = some q → P labels q → q.step label = some r →
      P (labels ++ [label]) r) : P labels p := by
  suffices ∀ (rest done : List (Label α)) (q : Pool α), start.run done = some q → P done q →
      q.run rest = some p → P (done ++ rest) p from this labels [] start rfl first ran
  intro rest
  induction rest with
  | nil =>
    intro done q _ holds ran
    cases ran
    rwa [List.append_nil]
  | cons label rest ih =>
    intro done q before holds ran
    obtain ⟨r, stepped, ran⟩ := Option.bind_eq_some_iff.mp ran
    have after : start.run (done ++ [label]) = some r := by
      rw [run_append, before]
      exact run_cons stepped
    rw [← List.singleton_append, ← List.append_assoc]
    exact ih (done ++ [label]) r after (step before holds stepped) ran

/-- A worker in the roster has waited since the moment that the roster names. -/
theorem waits_since (ran : start.run labels = some p) (nobody : start.idle.parked = []) :
    ∀ e ∈ p.idle.parked, Waits start e.worker e.since labels p := by
  apply run_induction (P := fun labels p => ∀ e ∈ p.idle.parked, Waits start e.worker e.since labels p) ran
  · intro e member
    rw [nobody] at member
    cases member
  · intro labels q label r ran before stepped e member
    have here := mem_workers member
    rcases (Move.of_step stepped).roster with some | ⟨thread, slot, -, joined, same⟩
    · exact (before e (some.subset member)).stay stepped here
    · rw [joined] at member
      rcases List.mem_append.mp member with earlier | new
      · exact (before e earlier).stay stepped here
      · obtain rfl := List.mem_singleton.mp new
        refine .begin ?_ here same
        rw [run_append, ran]
        exact run_cons stepped

/-- It has not waited for longer, as it was not in the roster when it joined it. -/
theorem Waits.since_le (h : Waits start worker since labels p) (first : Reachable plan start) :
    Reachable plan p ∧ ∀ e ∈ p.idle.parked, e.worker = worker → e.since ≤ since := by
  induction h with
  | begin ran here now =>
    have reached := first.leads ⟨_, ran⟩
    exact ⟨reached, fun e member _ => now ▸ reached.ordered.begun e member⟩
  | stay before stepped here ih =>
    obtain ⟨reached, ih⟩ := ih
    refine ⟨reached.leads (.of_step stepped), ?_⟩
    intro e member same
    rcases (Move.of_step stepped).roster with some | ⟨thread, slot, parking, joined, -⟩
    · exact ih e (some.subset member) same
    · rw [joined] at member
      rcases List.mem_append.mp member with earlier | new
      · exact ih e earlier same
      · obtain rfl := List.mem_singleton.mp new
        obtain rfl : slot = _ := same
        have absent := reached.tokens.not_idle_of_busy (List.mem_of_getElem? parking) rfl
        exact absurd before.here absent

theorem SweeperMove.onTime {epoch : Nat} {old new : SweeperPhase} (moves : SweeperMove p epoch old new q)
    (h : old.OnTime p.idle p.plan.expiry.nanos p.clock) (ordered : p.idle.Ordered p.clock) :
    new.OnTime p.idle p.plan.expiry.nanos p.clock := by
  cases moves with
  | begin ahead =>
    obtain ⟨-, rfl⟩ := later?_eq_some_iff.mp ahead
    exact Nat.le_refl _
  | leave | stumble | fall => trivial
  | sleep opened current early =>
    obtain ⟨-, deadline⟩ := Roster.sweep_eq_sleep_iff.mp early
    exact ⟨h, Roster.deadline_le_tick deadline, fun e member => ordered.deadline_le deadline member⟩
  | skip opened current due => exact Roster.next_le due h
  | evict opened current due => exact Roster.next_le due h

/-- What sweepers do next is judged by the roster at which they have looked. -/
theorem Move.onTime_before (moves : p.Move label q) (ordered : p.idle.Ordered p.clock)
    (h : ∀ s ∈ p.sweepers, s.phase.OnTime p.idle p.plan.expiry.nanos p.clock) :
    ∀ s ∈ q.sweepers, s.phase.OnTime p.idle p.plan.expiry.nanos p.clock := by
  intro s member
  cases moves with
  | call now moves =>
    cases moves with
    | wakeSweepers =>
      obtain ⟨t, before, rfl⟩ := List.mem_map.mp member
      exact (h t before).rouse
    | _ => exact h s member
  | thread now moves =>
    cases moves with
    | attend =>
      rcases List.mem_append.mp member with before | new
      · exact h s before
      · rw [List.mem_singleton.mp new]
        trivial
    | _ => exact h s member
  | worker now moves => cases moves <;> exact h s member
  | @sweeper thread epoch old new q now moves =>
    have onTime := moves.onTime (h _ (List.mem_of_getElem? now)) ordered
    have same : s ∈ (p.setSweeper thread new).sweepers := by cases moves <;> exact member
    rcases mem_modify now same with before | rfl
    · exact h s before
    · exact onTime
  | stirSweeper now =>
    rcases mem_modify now member with before | rfl
    · exact h s before
    · exact (h _ (List.mem_of_getElem? now)).rouse
  | _ => exact h s member

theorem Reachable.onTime (reached : Reachable plan p) :
    ∀ s ∈ p.sweepers, s.phase.OnTime p.idle p.plan.expiry.nanos p.clock := by
  apply reached.induction
    (P := fun p => ∀ s ∈ p.sweepers, s.phase.OnTime p.idle p.plan.expiry.nanos p.clock)
  · intro _ s member
    rw [List.mem_singleton.mp member]
    trivial
  · intro p q label before h moves s member
    have onTime := moves.onTime_before before.ordered h s member
    rw [moves.plan_eq]
    rcases moves.roster with some | ⟨thread, slot, -, joined, same⟩
    · exact onTime.mono some moves.clock_le
    · rw [joined, same]
      exact onTime.push slot

/-- What a sweeper takes out of the roster in a step: workers at the front that have expired, each of
which it tells to stop. -/
theorem Move.dismisses (moves : p.Move (.sweeper thread) q) (ordered : p.idle.Ordered p.clock)
    (positive : 0 < p.plan.expiry.nanos) :
    ∃ stopped : List Parked, p.idle.parked = stopped ++ q.idle.parked ∧
      stopAll p.slots (stopped.map (·.worker)) = some q.slots ∧
      ∀ e ∈ stopped, e.since + p.plan.expiry.nanos ≤ p.clock := by
  cases moves with
  | sweeper now moves =>
    cases moves with
    | evict opened current due late told =>
      obtain ⟨stopped, rfl, parts, expired, -⟩ := Roster.sweep_eq_pass due ordered.sorted positive
      exact ⟨stopped, parts, told, expired⟩
    | _ => exact ⟨[], rfl, rfl, nofun⟩

/-- A sweeper that has looked at the roster leaves nobody in it who has expired, unless it falls. -/
theorem Move.spares {tick : Nat} (moves : p.Move (.sweeper thread) q)
    (present : p.sweepers[thread]? = some ⟨p.epoch, .awake tick⟩) (opened : p.closed = false)
    (ordered : p.idle.Ordered p.clock) (positive : 0 < p.plan.expiry.nanos) :
    (∀ e ∈ q.idle.parked, p.clock < e.since + p.plan.expiry.nanos) ∨
      (q = p.setSweeper thread .fallen ∧ Late p) := by
  cases moves with
  | sweeper now moves =>
    obtain ⟨rfl, rfl⟩ := Sweeper.mk.inj (Option.some.inj (now.symm.trans present))
    cases moves with
    | leave leaves => simp [opened] at leaves
    | sleep opened current early =>
      obtain ⟨early, deadline⟩ := Roster.sweep_eq_sleep_iff.mp early
      exact .inl fun e member => Nat.lt_of_lt_of_le early (ordered.deadline_le deadline member)
    | skip opened current due =>
      obtain ⟨stopped, nobody, parts, -, young⟩ := Roster.sweep_eq_pass due ordered.sorted positive
      rw [List.map_eq_nil_iff.mp nobody.symm, List.nil_append] at parts
      exact .inl fun e member => young e (parts ▸ member)
    | evict opened current due =>
      obtain ⟨-, -, -, -, young⟩ := Roster.sweep_eq_pass due ordered.sorted positive
      exact .inl young
    | fall opened current beyond => exact .inr ⟨rfl, late_of_sweep_eq_fall ordered beyond⟩

theorem expiry_pos (built : build plan true = .ok start) : 0 < plan.expiry.nanos := by
  by_cases nobody : plan.capacity = 0
  · simp [build, Plan.check, nobody, bind, Except.bind] at built
  · by_cases never : plan.expiry.nanos = 0
    · simp [build, Plan.check, nobody, never, bind, Except.bind] at built
    · exact Nat.pos_of_ne_zero never

/-- What can be relied on about the dismissals of a pool that a run has led to. -/
structure Punctual (start : Pool α) (labels : List (Label α)) (p : Pool α) : Prop where
  /-- The roster is in the order in which its workers began to wait. -/
  sorted : p.idle.parked.Pairwise fun a b => a.since ≤ b.since
  /-- A worker has waited without a break since the moment that the roster names, and not for longer. -/
  since : ∀ e ∈ p.idle.parked, Waits start e.worker e.since labels p ∧
    ∀ since, Waits start e.worker since labels p → e.since ≤ since
  /-- The workers that a sweeper tells to stop are those at the front, from the front on, and have
  waited without a break for the expiry. -/
  dismisses : ∀ (thread : Nat) (q : Pool α), p.step (.sweeper thread) = some q →
    ∃ stopped : List Parked, p.idle.parked = stopped ++ q.idle.parked ∧
      stopAll p.slots (stopped.map (·.worker)) = some q.slots ∧
      ∀ e ∈ stopped, Waits start e.worker e.since labels p ∧
        e.since + p.plan.expiry.nanos ≤ p.clock
  /-- A round can always be made, and leaves nobody who has waited for the expiry. Only when the moment
  one expiry from now is behind the last may the sweeper fall instead. -/
  spares : ∀ (thread tick : Nat), p.sweepers[thread]? = some ⟨p.epoch, .awake tick⟩ →
    p.closed = false → ∃ q, p.step (.sweeper thread) = some q ∧
      ((∀ e ∈ q.idle.parked, ∀ since, Waits start e.worker since labels p →
          p.clock < since + p.plan.expiry.nanos) ∨
        (q = p.setSweeper thread .fallen ∧ Late p))
  /-- A sleep is over before anybody in the roster has waited for the expiry. -/
  sleeps : ∀ (thread epoch tick deadline : Nat),
    p.sweepers[thread]? = some ⟨epoch, .asleep tick deadline⟩ →
    ∀ e ∈ p.idle.parked, deadline ≤ e.since + p.plan.expiry.nanos

/-- Sweepers dismiss the workers that have waited for the expiry, and only those, and never sleep past
the moment at which one has. -/
theorem evictions_punctual (built : build plan true = .ok start) (ran : start.run labels = some p) :
    Punctual start labels p := by
  have reached : Reachable plan p := ⟨start, labels, built, ran⟩
  have first : Reachable plan start := ⟨start, [], built, rfl⟩
  have ordered := reached.ordered
  have positive : 0 < p.plan.expiry.nanos := reached.plan_eq ▸ expiry_pos built
  have nobody : start.idle.parked = [] := by
    obtain ⟨-, rfl⟩ := build_eq_ok built
    rfl
  have waits := waits_since ran nobody
  have longest (e : Parked) (member : e ∈ p.idle.parked) (since : Nat)
      (waits : Waits start e.worker since labels p) : e.since ≤ since :=
    (waits.since_le first).2 e member rfl
  constructor
  · exact ordered.sorted
  · exact fun e member => ⟨waits e member, longest e member⟩
  · intro thread q stepped
    obtain ⟨stopped, parts, told, late⟩ := (Move.of_step stepped).dismisses ordered positive
    refine ⟨stopped, parts, told, ?_⟩
    intro e member
    have before : e ∈ p.idle.parked := parts ▸ List.mem_append_left _ member
    exact ⟨waits e before, late e member⟩
  · intro thread tick present opened
    obtain ⟨q, stepped⟩ := Option.isSome_iff_exists.mp (reached.tokens.step_awake present)
    refine ⟨q, stepped, ?_⟩
    rcases (Move.of_step stepped).spares present opened ordered positive with young | fell
    · left
      intro e member since waited
      obtain ⟨stopped, parts, -⟩ := (Move.of_step stepped).dismisses ordered positive
      have before : e ∈ p.idle.parked := parts ▸ List.mem_append_right _ member
      exact Nat.lt_of_lt_of_le (young e member)
        (Nat.add_le_add_right (longest e before since waited) _)
    · exact .inr fell
  · intro thread epoch tick deadline asleep
    obtain ⟨-, -, spares⟩ := reached.onTime _ (List.mem_of_getElem? asleep)
    exact spares

/-- At the deadline of a sweeper one of two workers has waited for the expiry. The other one joined the
roster while the sweeper slept, and stays. -/
theorem evictions_punctual_of_two : ∃ (labels : List (Label Unit)) (p : Pool Unit),
    (fresh Unit { capacity := 2, expiry := ⟨10⟩ }).run labels = some p ∧ p.clock = 15 ∧
    p.sweepers = [⟨0, .asleep 20 15⟩] ∧ p.idle.parked = [⟨0, 5⟩, ⟨1, 12⟩] ∧
    (p.run [.stirSweeper 0, .sweeper 0]).map (·.idle.parked) = some [⟨1, 12⟩] ∧
    Punctual (fresh Unit { capacity := 2, expiry := ⟨10⟩ }) labels p := by
  let start := fresh Unit { capacity := 2, expiry := ⟨10⟩ }
  let early : List (Label Unit) :=
    [.sweeper 0, .pass 5, .finish 0 (.returned ()), .worker 0 none, .pass 5, .sweeper 0, .sweeper 0]
  let late : List (Label Unit) := [.pass 2, .finish 1 (.returned ()), .worker 1 none, .pass 3]
  let labels := hiring 0 0 ++ hiring 1 1 ++ early ++ late
  have built : build { capacity := 2, expiry := ⟨10⟩ } true = .ok start := rfl
  have seen : (start.run labels).any (fun p => p.clock = 15 ∧ p.sweepers = [⟨0, .asleep 20 15⟩] ∧
      p.idle.parked = [⟨0, 5⟩, ⟨1, 12⟩] ∧
      (p.run [.stirSweeper 0, .sweeper 0]).map (·.idle.parked) = some [⟨1, 12⟩]) = true := by decide
  obtain ⟨p, ran, seen⟩ := (Option.any_eq_true _ _).mp seen
  obtain ⟨clock, sweepers, parked, swept⟩ := of_decide_eq_true seen
  exact ⟨labels, p, ran, clock, sweepers, parked, swept, evictions_punctual built ran⟩

end Pool
end WorkerPool
