import WorkerPool.Proofs.Pool.Lifecycle
import WorkerPool.Proofs.Pool.Wakeup

/-!
# Sweepers

Each time a pool is opened it gets a sweeper of its own, unless the thread is refused, and no two
sweepers ever have the same epoch. A sweeper that is past, its pool closed or opened again, dismisses
nobody. It may sleep on only as long as the release that ended its time has yet to wake it. A sweeper
falls if a moment that it needs is behind the last, and then so is the moment one expiry from now.
-/

namespace WorkerPool

/-- The epoch whose sweeper a call is about to start. -/
def Phase.reopened? : Phase → Option Nat
  | .reopened epoch => some epoch
  | _ => none

/-- Whether a call is about to start the sweeper of an epoch. -/
def Phase.attends (epoch : Nat) : Phase → Bool
  | .reopened e => e == epoch
  | _ => false

def SweeperPhase.isAsleep : SweeperPhase → Bool
  | .asleep .. => true
  | _ => false

/-- Whether a sweeper has ended, be it that it has fallen. -/
def SweeperPhase.hasEnded : SweeperPhase → Bool
  | .gone | .fallen => true
  | _ => false

/-- Whether a sweeper does nothing before its deadline. -/
def SweeperPhase.rests : SweeperPhase → Bool
  | .asleep .. | .gone | .fallen => true
  | _ => false

theorem SweeperPhase.isAsleep_rouse (phase : SweeperPhase) : phase.rouse.isAsleep = false := by
  cases phase <;> rfl

namespace Pool

variable {α : Type} {plan : Plan} {p q start : Pool α} {label : Label α} {labels : List (Label α)}
  {call thread slot epoch : Nat} {wakes : Option Nat} {s : Sweeper} {unswept : List Nat}

theorem blind_attends (epoch : Nat) : Blind fun _ => Phase.attends epoch := fun _ phase => by
  cases phase <;> rfl

def epochs (p : Pool α) : List Nat := p.sweepers.map (·.epoch)

/-- Number of sweepers of an epoch, and of calls about to start one. -/
def posts (p : Pool α) (epoch : Nat) : Nat :=
  p.callsIn (Phase.attends epoch) + p.epochs.count epoch

/-- The epoch that a step leaves without a sweeper, as its thread is refused. -/
def forsaken (p : Pool α) : Label α → Pool α → List Nat
  | .thread call false, _ => ((p.phase? call).bind (·.reopened?)).toList
  | _, _ => []

theorem epochs_setSweeper (p : Pool α) (thread : Nat) (phase : SweeperPhase) :
    (p.setSweeper thread phase).epochs = p.epochs := by
  apply map_modify_of_eq
  intro s
  rfl

theorem CallMove.epochs {old new : Phase} (moves : CallMove p call wakes old new q) :
    q.epochs = p.epochs := by
  cases moves with
  | wakeSweepers => simp [Pool.epochs, Pool.wakeSweepers, note]
  | _ => rfl

/-- A call that opens the pool is the one that is to start the sweeper of the new epoch. -/
theorem CallMove.attends {old new : Phase} (moves : CallMove p call wakes old new q) (epoch : Nat) :
    (new.attends epoch).toNat + (decide (epoch ≤ p.epoch)).toNat =
      (old.attends epoch).toNat + (decide (epoch ≤ q.epoch)).toNat := by
  cases moves with
  | reopen closed =>
    by_cases new : p.epoch + 1 = epoch
    · subst new
      simp [Phase.attends]
    · have same : epoch ≤ p.epoch + 1 ↔ epoch ≤ p.epoch := by omega
      simp [Phase.attends, new, same]
  | _ => rfl

theorem ThreadMove.epochs {granted : Bool} {old new : Phase} (moves : ThreadMove p granted old new q)
    (now : p.phase? call = some old) (epoch : Nat) :
    q.epochs.count epoch + (p.forsaken (.thread call granted) q).count epoch +
        (new.attends epoch).toNat =
      p.epochs.count epoch + (old.attends epoch).toNat := by
  cases moves with
  | @attend e =>
    have epochs : (p.epochs ++ [e]).count epoch = p.epochs.count epoch + (e == epoch).toNat := by
      rw [List.count_append, count_cons_toNat, List.count_nil, Nat.zero_add]
    have more : List.map (·.epoch) (p.sweepers ++ [({ epoch := e } : Sweeper)]) = p.epochs ++ [e] :=
      List.map_append
    change (List.map (·.epoch) (p.sweepers ++ [({ epoch := e } : Sweeper)])).count epoch + 0 + 0 = _
    rw [more, epochs]
    rfl
  | @abandon e =>
    have forsaken : p.forsaken (.thread call false) p = [e] := by
      simp [Pool.forsaken, now, Phase.reopened?]
    rw [forsaken, count_cons_toNat]
    simp [Phase.attends]
  | refuse =>
    have forsaken : ∀ r, p.forsaken (.thread call false) r = [] := by
      simp [Pool.forsaken, now, Phase.reopened?]
    rw [forsaken]
    rfl
  | _ => rfl

/-- Every epoch up to the present one has a sweeper, or a call that is about to start it, or has been
forsaken, and only one of these. -/
def Staffed (p : Pool α) (forsaken : List Nat) : Prop :=
  ∀ epoch, p.posts epoch + forsaken.count epoch = (decide (epoch ≤ p.epoch)).toNat

theorem posts_eq {r : Pool α} (calls : r.callsIn (Phase.attends epoch) = p.callsIn (Phase.attends epoch))
    (epochs : r.epochs = p.epochs) : r.posts epoch = p.posts epoch := by
  rw [posts, calls, epochs, posts]

theorem Staffed.callMove {old new : Phase} (h : Staffed p unswept) (now : p.phase? call = some old)
    (moves : CallMove p call wakes old new q) : Staffed (q.setPhase call new) unswept := by
  intro epoch
  have before := h epoch
  have calls := moves.callsIn now fun _ => blind_attends epoch
  have attends := moves.attends epoch
  have epochs : (q.setPhase call new).epochs = p.epochs := moves.epochs
  change _ = (decide (epoch ≤ q.epoch)).toNat
  unfold posts at *
  rw [epochs]
  omega

theorem Staffed.threadMove {granted : Bool} {old new : Phase} (h : Staffed p unswept)
    (now : p.phase? call = some old) (moves : ThreadMove p granted old new q) :
    Staffed (q.setPhase call new) (unswept ++ p.forsaken (.thread call granted) q) := by
  intro epoch
  have before := h epoch
  have calls := moves.callsIn now (Phase.attends epoch)
  have epochs := moves.epochs now epoch
  have same : q.epoch = p.epoch := by cases moves <;> rfl
  change (q.setPhase call new).callsIn _ + q.epochs.count epoch + _ = (decide (epoch ≤ q.epoch)).toNat
  unfold posts at before
  rw [List.count_append, same]
  omega

theorem Staffed.move (h : Staffed p unswept) (moves : p.Move label q) :
    Staffed q (unswept ++ p.forsaken label q) := by
  have others (none : label.caller? = none) (epochs : q.epochs = p.epochs) (same : q.epoch = p.epoch)
      (nothing : p.forsaken label q = []) : Staffed q (unswept ++ p.forsaken label q) := by
    intro epoch
    have calls := moves.callsIn_of_others none (blind_attends epoch) fun op => by cases op <;> rfl
    rw [nothing, List.append_nil, posts_eq calls epochs, same]
    exact h epoch
  cases moves with
  | call now moves =>
    simp only [forsaken, List.append_nil]
    exact h.callMove now moves
  | @thread call granted old new r now moves =>
    have same : p.forsaken (.thread call granted) (r.setPhase call new) =
        p.forsaken (.thread call granted) r := by cases granted <;> rfl
    rw [same]
    exact h.threadMove now moves
  | worker now moves => exact others rfl (by cases moves <;> rfl) (by cases moves <;> rfl) rfl
  | sweeper now moves =>
    exact others rfl ((epochs_setSweeper ..).trans (by cases moves <;> rfl)) (by cases moves <;> rfl) rfl
  | stirSweeper => exact others rfl (epochs_setSweeper ..) rfl rfl
  | _ => exact others rfl rfl rfl rfl

/-- What happens later forsakes epochs only in addition. -/
theorem Staffed.leads (h : Staffed p unswept) (led : p.Leads q) :
    ∃ more, Staffed q (unswept ++ more) := by
  apply led.induction (P := fun q => ∃ more, Staffed q (unswept ++ more))
  · exact ⟨[], by rwa [List.append_nil]⟩
  · rintro r s label - ⟨more, h⟩ moves
    refine ⟨more ++ r.forsaken label s, ?_⟩
    rw [← List.append_assoc]
    exact h.move moves

theorem Staffed.fresh : Staffed (fresh α plan) [] := by
  intro epoch
  cases epoch with
  | zero => rfl
  | succ epoch => simp [posts, callsIn, views, epochs, Pool.fresh]

theorem Reachable.staffed (reached : Reachable plan p) : ∃ unswept, Staffed p unswept := by
  obtain ⟨start, labels, built, ran⟩ := reached
  obtain ⟨-, rfl⟩ := build_eq_ok built
  exact Staffed.fresh.leads ⟨labels, ran⟩

theorem Staffed.epochs_nodup (h : Staffed p unswept) : p.epochs.Nodup := by
  apply List.nodup_iff_count.mpr
  intro epoch
  have all := h epoch
  have one := Bool.toNat_le (decide (epoch ≤ p.epoch))
  unfold posts at all
  omega

theorem Staffed.epoch_le (h : Staffed p unswept) (member : s ∈ p.sweepers) : s.epoch ≤ p.epoch := by
  have here : 0 < p.epochs.count s.epoch := List.count_pos_iff.mpr (List.mem_map_of_mem member)
  have all := h s.epoch
  unfold posts at all
  by_cases le : s.epoch ≤ p.epoch
  · exact le
  · simp only [le, decide_false, Bool.toNat_false] at all
    omega

theorem Move.clock_le (moves : p.Move label q) : p.clock ≤ q.clock := by
  cases moves with
  | pass => exact Nat.le_add_right ..
  | call now moves => cases moves <;> exact Nat.le_refl _
  | thread now moves => cases moves <;> exact Nat.le_refl _
  | worker now moves => cases moves <;> exact Nat.le_refl _
  | sweeper now moves => cases moves <;> exact Nat.le_refl _
  | _ => exact Nat.le_refl _

/-- A worker joins the roster when it parks, and then at the back. All other steps only take workers
out of it. -/
theorem Move.roster (moves : p.Move label q) : q.idle.parked.Sublist p.idle.parked ∨
    ∃ (thread slot : Nat), p.workers[thread]? = some ⟨slot, .parking⟩ ∧
      q.idle = p.idle.push slot p.clock ∧ q.clock = p.clock := by
  cases moves with
  | call now moves =>
    cases moves with
    | reuse opened found => exact .inl (Roster.parked_pop? found)
    | close => exact .inl (List.nil_sublist _)
    | _ => exact .inl (List.Sublist.refl _)
  | thread now moves => cases moves <;> exact .inl (List.Sublist.refl _)
  | worker now moves =>
    cases moves with
    | park => exact .inr ⟨_, _, now, rfl, rfl⟩
    | _ => exact .inl (List.Sublist.refl _)
  | sweeper now moves =>
    cases moves with
    | evict opened current due => exact .inl (Roster.parked_sweep due)
    | _ => exact .inl (List.Sublist.refl _)
  | _ => exact .inl (List.Sublist.refl _)

theorem Reachable.ordered (reached : Reachable plan p) : p.idle.Ordered p.clock := by
  apply reached.induction (P := fun p => p.idle.Ordered p.clock)
  · exact fun _ => .nobody _
  · intro p q label _ h moves
    rcases moves.roster with some | ⟨thread, slot, -, joined, same⟩
    · exact h.mono some moves.clock_le
    · rw [joined, same]
      exact h.push slot

/-- Whether the moment one expiry from now is behind the last. -/
def Late (p : Pool α) : Prop := lastMoment < p.clock + p.plan.expiry.nanos

instance (p : Pool α) : Decidable (Late p) := inferInstanceAs (Decidable (_ < _))

theorem Late.move (late : Late p) (moves : p.Move label q) : Late q := by
  have grows := moves.clock_le
  unfold Late at *
  rw [moves.plan_eq]
  omega

/-- Nobody in the roster waits since a moment to come, so it is the present moment that is too late. -/
theorem late_of_sweep_eq_fall {tick : Nat} (ordered : p.idle.Ordered p.clock)
    (beyond : p.idle.sweep p.plan.expiry.nanos p.clock tick = .fall) : Late p := by
  apply Nat.lt_of_not_le
  intro early
  refine Roster.sweep_ne_fall (fun e first => ?_) early beyond
  have begun := ordered.begun e (List.mem_of_mem_head? first)
  omega

theorem late_of_later?_eq_none (beyond : later? p.clock p.plan.expiry.nanos = none) : Late p := by
  apply Nat.lt_of_not_le
  intro early
  rw [later?, if_pos early] at beyond
  cases beyond

def Past (p : Pool α) (s : Sweeper) : Prop := p.closed = true ∨ s.epoch ≠ p.epoch

/-- A sweeper leaves only when it is past, and sleeps on when it is past only until the release that
has made it so wakes it. -/
structure OnDuty (p : Pool α) (s : Sweeper) : Prop where
  past : s.phase = .gone → p.Past s
  late : s.phase = .fallen → Late p
  woken : s.phase.isAsleep = true → p.Past s → 0 < p.callsIn Phase.isReleasing

/-- A sweeper that is past stays past. -/
theorem Past.move (past : p.Past s) (le : s.epoch ≤ p.epoch) (moves : p.Move label q) : q.Past s := by
  have grows : p.epoch ≤ q.epoch := Door.epoch_le moves.door
  by_cases same : q.epoch = p.epoch
  · rcases past with closed | other
    · exact .inl (Door.closed_of_epoch_eq moves.door closed same)
    · exact .inr (same ▸ other)
  · exact .inr (by omega)

theorem CallMove.past {old new : Phase} (moves : CallMove p call wakes old new q) (past : q.Past s) :
    p.Past s ∨ new.isReleasing = true := by
  cases moves with
  | close => exact .inr rfl
  | reopen closed => exact .inl (.inl closed)
  | _ => exact .inl past

/-- The time of a sweeper ends with a release, which has yet to wake it. -/
theorem Move.past (moves : p.Move label q) (past : q.Past s) :
    p.Past s ∨ 0 < q.callsIn Phase.isReleasing := by
  cases moves with
  | @call call wakes old new r now moves =>
    rcases moves.past past with before | releasing
    · exact .inl before
    · obtain ⟨op, role⟩ := exists_role? now
      have after : (r.setPhase call new).role? call = some (op, new) :=
        (moves.keeps call).setPhase_self role new
      apply Or.inr
      apply callsIn_pos _ releasing
      · exact call
      · rw [phase?_eq, after, Option.map_some]
  | thread now moves => cases moves <;> exact .inl past
  | worker now moves => cases moves <;> exact .inl past
  | sweeper now moves => cases moves <;> exact .inl past
  | _ => exact .inl past

theorem isAsleep_of_wakeSweepers (p : Pool α) :
    ∀ s ∈ p.wakeSweepers.sweepers, s.phase.isAsleep = false := by
  intro s member
  obtain ⟨t, -, rfl⟩ := List.mem_map.mp member
  exact t.phase.isAsleep_rouse

theorem Move.isReleasing (moves : p.Move label q) (releasing : 0 < p.callsIn Phase.isReleasing) :
    0 < q.callsIn Phase.isReleasing ∨ ∀ s ∈ q.sweepers, s.phase.isAsleep = false := by
  have others (none : label.caller? = none) : 0 < q.callsIn Phase.isReleasing := by
    rw [moves.callsIn_of_others none blind_isReleasing fun op => by cases op <;> rfl]
    exact releasing
  cases moves with
  | @call call wakes old new r now moves =>
    have calls := moves.callsIn now fun _ => blind_isReleasing
    cases moves with
    | wakeSweepers => exact .inr p.isAsleep_of_wakeSweepers
    | wakeSubmitters =>
      have same : Pool.callsIn _ Phase.isReleasing = p.callsIn Phase.isReleasing :=
        Nat.add_right_cancel calls
      exact .inl (same ▸ releasing)
    | _ =>
      apply Or.inl
      apply Nat.lt_of_lt_of_le releasing
      exact Nat.le_trans (Nat.le_add_right ..) (Nat.le_of_eq calls.symm)
  | thread now moves =>
    have calls := moves.callsIn now Phase.isReleasing
    cases moves <;>
    · have same := Nat.add_right_cancel calls
      exact .inl (same ▸ releasing)
  | _ => exact .inl (others rfl)

theorem mem_modify {β : Type} {l : List β} {i : Nat} {b c : β} {f : β → β} (h : l[i]? = some b)
    (member : c ∈ l.modify i f) : c ∈ l ∨ c = f b := by
  obtain ⟨j, there⟩ := List.mem_iff_getElem?.mp member
  rw [List.getElem?_modify] at there
  split at there
  · rename_i same
    rw [← same, h] at there
    exact .inr (Option.some.inj there).symm
  · exact .inl (List.mem_iff_getElem?.mpr ⟨j, by simpa using there⟩)

/-- How a sweeper may have come where it is: it has been there, or is up, or has left as it is past, or
has gone to sleep as it is not, or has fallen. -/
theorem Move.sweepers (moves : p.Move label q) (ordered : p.idle.Ordered p.clock)
    (member : s ∈ q.sweepers) :
    s ∈ p.sweepers ∨ s.phase.rests = false ∨ (s.phase = .gone ∧ q.Past s) ∨
      (s.phase.isAsleep = true ∧ ¬q.Past s) ∨ (s.phase = .fallen ∧ Late p) := by
  cases moves with
  | call now moves =>
    cases moves with
    | wakeSweepers =>
      obtain ⟨⟨epoch, phase⟩, before, rfl⟩ := List.mem_map.mp member
      cases phase with
      | asleep => exact .inr (.inl rfl)
      | _ => exact .inl before
    | _ => exact .inl member
  | thread now moves =>
    cases moves with
    | attend =>
      rcases List.mem_append.mp member with before | new
      · exact .inl before
      · rw [List.mem_singleton.mp new]
        exact .inr (.inl rfl)
    | _ => exact .inl member
  | worker now moves => cases moves <;> exact .inl member
  | sweeper now moves =>
    cases moves with
    | leave leaves =>
      rcases mem_modify now member with before | rfl
      · exact .inl before
      · exact .inr (.inr (.inl ⟨rfl, leaves.imp_right Ne.symm⟩))
    | sleep opened current =>
      rcases mem_modify now member with before | rfl
      · exact .inl before
      · refine .inr (.inr (.inr (.inl ⟨rfl, ?_⟩)))
        rintro (closed | other)
        · cases opened.symm.trans closed
        · exact other current.symm
    | stumble beyond =>
      rcases mem_modify now member with before | rfl
      · exact .inl before
      · exact .inr (.inr (.inr (.inr ⟨rfl, late_of_later?_eq_none beyond⟩)))
    | fall opened current beyond =>
      rcases mem_modify now member with before | rfl
      · exact .inl before
      · exact .inr (.inr (.inr (.inr ⟨rfl, late_of_sweep_eq_fall ordered beyond⟩)))
    | _ =>
      rcases mem_modify now member with before | rfl
      · exact .inl before
      · exact .inr (.inl rfl)
  | stirSweeper now =>
    rcases mem_modify now member with before | rfl
    · exact .inl before
    · exact .inr (.inl rfl)
  | _ => exact .inl member

theorem OnDuty.move (h : ∀ s ∈ p.sweepers, p.OnDuty s) (staffed : Staffed p unswept)
    (ordered : p.idle.Ordered p.clock) (moves : p.Move label q) (member : s ∈ q.sweepers) :
    q.OnDuty s := by
  rcases moves.sweepers ordered member with before | up | ⟨gone, past⟩ | ⟨asleep, present⟩ | ⟨fallen, late⟩
  · constructor
    · intro gone
      exact ((h s before).past gone).move (staffed.epoch_le before) moves
    · intro fallen
      exact ((h s before).late fallen).move moves
    · intro asleep past
      rcases moves.past past with earlier | releasing
      · rcases moves.isReleasing ((h s before).woken asleep earlier) with releasing | awake
        · exact releasing
        · rw [awake s member] at asleep
          cases asleep
      · exact releasing
  · obtain ⟨epoch, phase⟩ := s
    cases phase with
    | beginning | awake => exact ⟨nofun, nofun, nofun⟩
    | asleep | gone | fallen => cases up
  · obtain ⟨epoch, phase⟩ := s
    cases gone
    exact ⟨fun _ => past, nofun, nofun⟩
  · obtain ⟨epoch, phase⟩ := s
    cases phase with
    | asleep => exact ⟨nofun, nofun, fun _ past => absurd past present⟩
    | _ => cases asleep
  · obtain ⟨epoch, phase⟩ := s
    cases fallen
    exact ⟨nofun, fun _ => late.move moves, nofun⟩

theorem Staffed.run (built : build plan true = .ok start) (ran : start.run labels = some p) :
    Staffed p (start.gather forsaken labels) ∧ ∀ s ∈ p.sweepers, p.OnDuty s := by
  have duty : ∀ s ∈ (Pool.fresh α plan).sweepers, (Pool.fresh α plan).OnDuty s := by
    intro s member
    rw [List.mem_singleton.mp member]
    exact ⟨nofun, nofun, nofun⟩
  apply gather_induction (P := fun p unswept => Staffed p unswept ∧ ∀ s ∈ p.sweepers, p.OnDuty s)
    built ran ⟨.fresh, duty⟩
  intro r s label unswept before ⟨staffed, duty⟩ moves
  exact ⟨staffed.move moves, fun t => OnDuty.move duty staffed before.ordered moves⟩

/-- Whether a step evicts workers: it counts them as evicted, or takes them out of the roster without
being a call's step. -/
def Evicts (p : Pool α) (label : Label α) (q : Pool α) : Prop :=
  q.meters.evicted ≠ p.meters.evicted ∨
    label.caller? = none ∧ ∃ slot ∈ p.idle.workers, slot ∉ q.idle.workers

theorem WorkerMove.idle_subset {old new : WorkerPhase} (moves : WorkerMove p slot wakes old new q) :
    p.idle.workers ⊆ q.idle.workers := by
  cases moves with
  | park =>
    change p.idle.workers ⊆ (p.idle.push slot p.clock).workers
    simp
  | _ => exact fun _ member => member

theorem Move.evicts (moves : p.Move label q) (evicts : p.Evicts label q) :
    ∃ thread tick, label = .sweeper thread ∧
      p.sweepers[thread]? = some ⟨p.epoch, .awake tick⟩ ∧ p.closed = false := by
  have others (meters : q.meters.evicted = p.meters.evicted) (idle : p.idle.workers ⊆ q.idle.workers) :
      ¬p.Evicts label q := by
    rintro (counted | ⟨-, slot, member, absent⟩)
    · exact counted meters
    · exact absent (idle member)
  cases moves with
  | call now moves =>
    rcases evicts with counted | ⟨none, -⟩
    · cases moves <;> exact absurd rfl counted
    · cases none
  | thread now moves =>
    rcases evicts with counted | ⟨none, -⟩
    · cases moves <;> exact absurd rfl counted
    · cases none
  | worker now moves =>
    exact absurd evicts (others (by cases moves <;> rfl) moves.idle_subset)
  | sweeper now moves =>
    cases moves with
    | evict opened current => exact ⟨_, _, rfl, current ▸ now, opened⟩
    | _ => exact absurd evicts (others rfl (List.Subset.refl _))
  | _ => exact absurd evicts (others rfl (List.Subset.refl _))

/-- No call is under way, and the sweepers do nothing before their deadlines. -/
structure Dormant (p : Pool α) : Prop where
  calls : ∀ c ∈ p.calls, c.phase.rests = true
  sweepers : ∀ s ∈ p.sweepers, s.phase.rests = true

instance (p : Pool α) : Decidable (Dormant p) :=
  decidable_of_iff
    ((∀ c ∈ p.calls, c.phase.rests = true) ∧ ∀ s ∈ p.sweepers, s.phase.rests = true)
    ⟨fun ⟨calls, sweepers⟩ => ⟨calls, sweepers⟩, fun ⟨calls, sweepers⟩ => ⟨calls, sweepers⟩⟩

theorem Dormant.hasEnded (h : Dormant p) (duty : p.OnDuty s) (member : s ∈ p.sweepers)
    (past : p.Past s) : s.phase.hasEnded = true := by
  have nobody : p.callsIn Phase.isReleasing = 0 := by
    apply callsIn_eq_zero
    intro c made
    have rests := h.calls c made
    cases phase : c.phase <;> rw [phase] at rests <;> first | rfl | cases rests
  have rests := h.sweepers s member
  cases phase : s.phase with
  | gone | fallen => rfl
  | asleep =>
    have releasing := duty.woken (by rw [phase]; rfl) past
    omega
  | _ =>
    rw [phase] at rests
    cases rests

theorem Dormant.asleep (h : Dormant p) (duty : p.OnDuty s) (member : s ∈ p.sweepers)
    (present : ¬p.Past s) (early : ¬Late p) : ∃ tick deadline, s.phase = .asleep tick deadline := by
  have rests := h.sweepers s member
  cases phase : s.phase with
  | asleep tick deadline => exact ⟨tick, deadline, rfl⟩
  | gone => exact absurd (duty.past phase) present
  | fallen => exact absurd (duty.late phase) early
  | _ =>
    rw [phase] at rests
    cases rests

theorem Staffed.alone {i j : Nat} {t : Sweeper} (h : Staffed p unswept)
    (here : p.sweepers[i]? = some s) (there : p.sweepers[j]? = some t) (same : s.epoch = t.epoch) :
    i = j := by
  have one : p.epochs[i]? = some s.epoch := by simp [epochs, here]
  have other : p.epochs[j]? = some t.epoch := by simp [epochs, there]
  obtain ⟨inside, -⟩ := List.getElem?_eq_some_iff.mp one
  apply (List.getElem?_inj inside h.epochs_nodup).mp
  rw [one, other, same]

theorem Staffed.exists_sweeper (h : Staffed p unswept) (dormant : Dormant p)
    (attended : p.epoch ∉ unswept) : ∃ (thread : Nat) (s : Sweeper),
      p.sweepers[thread]? = some s ∧ s.epoch = p.epoch := by
  have nobody : p.callsIn (Phase.attends p.epoch) = 0 := by
    apply callsIn_eq_zero
    intro c made
    have rests := dormant.calls c made
    cases phase : c.phase <;> rw [phase] at rests <;> first | rfl | cases rests
  have all := h p.epoch
  rw [posts, nobody, List.count_eq_zero_of_not_mem attended, decide_eq_true (Nat.le_refl _)] at all
  have here : 0 < p.epochs.count p.epoch := by
    rw [Bool.toNat_true] at all
    omega
  obtain ⟨s, member, same⟩ := List.mem_map.mp (List.count_pos_iff.mp here)
  obtain ⟨thread, there⟩ := List.mem_iff_getElem?.mp member
  exact ⟨thread, s, there, same⟩

/-- What can be relied on about the sweepers of a pool, some epochs being forsaken. -/
structure Swept (p : Pool α) (forsaken : List Nat) : Prop where
  /-- Two sweepers are never of the same epoch, be it the present one or another. -/
  alone : ∀ (i j : Nat) (s t : Sweeper), p.sweepers[i]? = some s → p.sweepers[j]? = some t →
    s.epoch = t.epoch → i = j
  evicts : ∀ label q, p.step label = some q → p.Evicts label q → ∃ thread tick,
    label = .sweeper thread ∧ p.sweepers[thread]? = some ⟨p.epoch, .awake tick⟩ ∧ p.closed = false
  /-- A sweeper that sleeps on when it is past is going to be woken by a release. -/
  woken : ∀ s ∈ p.sweepers, s.phase.isAsleep = true → p.Past s →
    ∃ call phase, p.phase? call = some phase ∧ phase.isReleasing = true
  closed : Dormant p → p.closed = true → ∀ s ∈ p.sweepers, s.phase.hasEnded = true
  opened : Dormant p → p.closed = false → p.epoch ∉ forsaken → ¬Late p → ∃ (thread tick deadline : Nat),
    p.sweepers[thread]? = some ⟨p.epoch, .asleep tick deadline⟩ ∧
      ∀ (other : Nat) (s : Sweeper), p.sweepers[other]? = some s → other ≠ thread →
        s.phase.hasEnded = true
  fallen : ∀ s ∈ p.sweepers, s.phase = .fallen → Late p

/-- An open pool has one sweeper, unless its restart was refused the thread or the moment one expiry from
now is behind the last, and a closed pool has none. Others are on their way out, and never evict anybody. -/
theorem one_sweeper (built : build plan true = .ok start) (ran : start.run labels = some p) :
    Swept p (start.gather forsaken labels) := by
  obtain ⟨staffed, duty⟩ := Staffed.run built ran
  constructor
  · exact fun i j s t => staffed.alone
  · exact fun label q stepped => (Move.of_step stepped).evicts
  · exact fun s member asleep past => exists_phase?_of_callsIn_pos ((duty s member).woken asleep past)
  · exact fun dormant closed s member => dormant.hasEnded (duty s member) member (.inl closed)
  · intro dormant opened attended early
    obtain ⟨thread, ⟨epoch, phase⟩, there, rfl⟩ := staffed.exists_sweeper dormant attended
    have member := List.mem_of_getElem? there
    have present : ¬p.Past ⟨p.epoch, phase⟩ := by
      rintro (closed | other)
      · cases opened.symm.trans closed
      · exact other rfl
    obtain ⟨tick, deadline, asleep⟩ := dormant.asleep (duty _ member) member present early
    refine ⟨thread, tick, deadline, asleep ▸ there, ?_⟩
    intro other s here different
    have member := List.mem_of_getElem? here
    apply dormant.hasEnded (duty s member) member
    right
    intro same
    exact different (staffed.alone here there same)
  · exact fun s member => (duty s member).late

/-- The restart of epoch 1 is refused its sweeper, and that of epoch 2 is not. -/
theorem one_sweeper_after_refusal : ∃ p : Pool Unit, Reachable { capacity := 1 } p ∧ Dormant p ∧
    p.closed = false ∧ p.epoch = 2 ∧ p.sweepers.length = 2 ∧ Swept p [1] := by
  let start := fresh Unit { capacity := 1 }
  let release (call : Nat) : List (Label Unit) :=
    [.invoke .release, .call call none, .call call none, .call call none]
  let restart (call : Nat) (granted : Bool) : List (Label Unit) :=
    [.invoke .restart, .call call none, .thread call granted]
  let labels : List (Label Unit) :=
    [.sweeper 0, .sweeper 0] ++ release 0 ++ restart 1 false ++ [.sweeper 0] ++ release 2 ++
      restart 3 true ++ [.sweeper 1, .sweeper 1]
  have built : build { capacity := 1 } true = .ok start := rfl
  have seen : (start.run labels).any (fun p =>
      Dormant p ∧ p.closed = false ∧ p.epoch = 2 ∧ p.sweepers.length = 2) = true := by decide
  obtain ⟨p, ran, seen⟩ := (Option.any_eq_true _ _).mp seen
  obtain ⟨dormant, opened, epoch, two⟩ := of_decide_eq_true seen
  have unswept : start.gather forsaken labels = [1] := by decide
  have swept := one_sweeper built ran
  rw [unswept] at swept
  exact ⟨p, ⟨start, labels, built, ran⟩, dormant, opened, epoch, two, swept⟩

/-- No moment is one expiry from now: the sweeper of a new pool falls at once, and the open pool has none. -/
theorem opened_without_sweeper : ∃ (start p : Pool Unit),
    build { capacity := 1, expiry := .ofSeconds 18446744073709551615 } true = .ok start ∧
    start.run [.sweeper 0] = some p ∧ Dormant p ∧ p.closed = false ∧
    p.epoch ∉ start.gather forsaken [.sweeper 0] ∧
    ∀ s ∈ p.sweepers, s.phase.hasEnded = true := by
  let start := fresh Unit { capacity := 1, expiry := .ofSeconds 18446744073709551615 }
  have seen : (start.run [.sweeper 0]).any (fun p => Dormant p ∧ p.closed = false ∧
      p.epoch ∉ start.gather forsaken [.sweeper 0] ∧
      ∀ s ∈ p.sweepers, s.phase.hasEnded = true) = true := by decide
  obtain ⟨p, ran, seen⟩ := (Option.any_eq_true _ _).mp seen
  exact ⟨start, p, rfl, ran, of_decide_eq_true seen⟩

end Pool
end WorkerPool
