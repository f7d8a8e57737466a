import WorkerPool.Pool.Roster

/-!
# The roster in the order of time

Workers join the roster at the back and time does not run backwards, so the one at the front has
waited longest. That is why a round of a sweeper that looks at the front alone finds all who have
waited too long, and why the moment at which the front expires is the first at which anybody does.
-/

namespace WorkerPool

theorem Parked.expired_iff {now expiry : Nat} {e : Parked} (positive : 0 < expiry) :
    e.expired now expiry = true ↔ e.since + expiry ≤ now := by
  rw [expired, decide_eq_true_eq]
  omega

theorem later?_eq_some_iff {moment length later : Nat} :
    later? moment length = some later ↔ moment + length ≤ lastMoment ∧ moment + length = later := by
  rw [later?, Option.ite_none_right_eq_some, Option.some.injEq]

namespace Roster

variable {r kept : Roster} {now later expiry tick next deadline worker : Nat} {dismissed : List Nat}
  {e : Parked}

/-- Whether the workers stand in the order in which they began to wait, all of them by `now`. -/
structure Ordered (r : Roster) (now : Nat) : Prop where
  sorted : r.parked.Pairwise fun a b => a.since ≤ b.since
  begun : ∀ e ∈ r.parked, e.since ≤ now

theorem Ordered.nobody (now : Nat) : Ordered {} now := ⟨.nil, nofun⟩

theorem Ordered.mono (h : r.Ordered now) (some : kept.parked.Sublist r.parked) (le : now ≤ later) :
    kept.Ordered later where
  sorted := h.sorted.sublist some
  begun e member := Nat.le_trans (h.begun e (some.subset member)) le

theorem Ordered.push (h : r.Ordered now) (worker : Nat) : (r.push worker now).Ordered now where
  sorted := by
    apply List.pairwise_append.mpr
    refine ⟨h.sorted, List.pairwise_singleton .., ?_⟩
    intro a before b here
    rw [List.mem_singleton.mp here]
    exact h.begun a before
  begun e member := by
    rcases List.mem_append.mp member with before | here
    · exact h.begun e before
    · obtain rfl := List.mem_singleton.mp here
      exact Nat.le_refl _

theorem parked_pop? (h : r.pop? = some (worker, kept)) : kept.parked.Sublist r.parked := by
  obtain ⟨p, -, eq⟩ := Option.map_eq_some_iff.mp h
  obtain ⟨-, rfl⟩ := Prod.mk.inj eq
  exact List.dropLast_sublist _

/-- A round that dismisses comes at the deadline or later, and its tick is the next one. -/
theorem sweep_eq_pass_iff : r.sweep expiry now tick = .pass next dismissed kept ↔
    (∃ deadline, r.deadline? expiry tick = some deadline ∧ deadline ≤ now) ∧
      nextTick? expiry now tick = some next ∧ r.evict now expiry = (dismissed, kept) := by
  unfold sweep
  cases r.deadline? expiry tick with
  | none => simp
  | some deadline =>
    by_cases early : now < deadline
    · simp [early, Nat.not_le_of_lt early]
    · cases nextTick? expiry now tick with
      | none => simp [early]
      | some tick => simp [early, Nat.le_of_not_lt early, Prod.ext_iff]

theorem sweep_eq_sleep_iff : r.sweep expiry now tick = .sleep deadline ↔
    now < deadline ∧ r.deadline? expiry tick = some deadline := by
  unfold sweep
  cases r.deadline? expiry tick with
  | none => simp
  | some moment =>
    by_cases early : now < moment
    · simp only [early, ↓reduceIte, Sweep.sleep.injEq, Option.some.injEq]
      exact ⟨fun same => ⟨same ▸ early, same⟩, And.right⟩
    · have late : ¬(now < deadline ∧ moment = deadline) := fun h => early (h.2 ▸ h.1)
      simp only [early, ↓reduceIte, Option.some.injEq, late, iff_false]
      split <;> simp

theorem parked_sweep (h : r.sweep expiry now tick = .pass next dismissed kept) :
    kept.parked.Sublist r.parked := by
  obtain ⟨-, -, evicted⟩ := sweep_eq_pass_iff.mp h
  obtain ⟨-, rfl⟩ := Prod.mk.inj evicted
  exact List.dropWhile_sublist _

/-- The deadline is the tick or the moment at which the front expires, whichever comes first. -/
theorem deadline?_eq_some_iff : r.deadline? expiry tick = some deadline ↔
    (∀ e ∈ r.parked.head?, e.since + expiry ≤ lastMoment) ∧
      r.parked.head?.elim tick (fun e => min (e.since + expiry) tick) = deadline := by
  unfold deadline? nextExpiry?
  cases r.parked.head? <;> simp

theorem deadline_le_tick (h : r.deadline? expiry tick = some deadline) : deadline ≤ tick := by
  obtain ⟨-, rfl⟩ := deadline?_eq_some_iff.mp h
  cases r.parked.head? with
  | none => exact Nat.le_refl _
  | some first => exact Nat.min_le_right ..

/-- Nobody expires before the deadline. -/
theorem Ordered.deadline_le (ordered : r.Ordered now) (h : r.deadline? expiry tick = some deadline)
    (member : e ∈ r.parked) : deadline ≤ e.since + expiry := by
  obtain ⟨-, rfl⟩ := deadline?_eq_some_iff.mp h
  obtain ⟨parked⟩ := r
  cases parked with
  | nil => cases member
  | cons first others =>
    have oldest : first.since ≤ e.since := by
      rcases List.mem_cons.mp member with rfl | behind
      · exact Nat.le_refl _
      · exact List.rel_of_pairwise_cons ordered.sorted behind
    calc min (first.since + expiry) tick
      _ ≤ first.since + expiry := Nat.min_le_left ..
      _ ≤ e.since + expiry := Nat.add_le_add_right oldest expiry

/-- A sweeper falls only when it needs a moment behind the last. -/
theorem sweep_ne_fall (front : ∀ e ∈ r.parked.head?, e.since + expiry ≤ lastMoment)
    (ahead : now + expiry ≤ lastMoment) : r.sweep expiry now tick ≠ .fall := by
  have deadline : r.deadline? expiry tick = some _ := deadline?_eq_some_iff.mpr ⟨front, rfl⟩
  have next : (nextTick? expiry now tick).isSome := by
    unfold nextTick? later?
    rw [if_pos ahead]
    split <;> rfl
  obtain ⟨next, eq⟩ := Option.isSome_iff_exists.mp next
  simp only [sweep, deadline, eq]
  split <;> simp

/-- In a roster in order nobody behind one who has not expired has. -/
theorem not_expired_of_mem_dropWhile (sorted : r.parked.Pairwise fun a b => a.since ≤ b.since)
    (member : e ∈ r.parked.dropWhile (·.expired later expiry)) : e.expired later expiry = false := by
  obtain ⟨parked⟩ := r
  induction parked with
  | nil => cases member
  | cons first others ih =>
    obtain ⟨oldest, sorted⟩ := List.pairwise_cons.mp sorted
    cases late : first.expired later expiry with
    | true =>
      rw [List.dropWhile_cons_of_pos late] at member
      exact ih sorted member
    | false =>
      rw [List.dropWhile_cons_of_neg (by simp [late])] at member
      rcases List.mem_cons.mp member with rfl | behind
      · exact late
      · have younger := oldest e behind
        rw [Parked.expired, decide_eq_false_iff_not] at late ⊢
        omega

theorem evict_of_sorted (sorted : r.parked.Pairwise fun a b => a.since ≤ b.since) (now expiry : Nat) :
    r.evict now expiry =
      ((r.parked.filter (·.expired now expiry)).map (·.worker),
        ⟨r.parked.filter (!·.expired now expiry)⟩) := by
  have parts := r.parked.takeWhile_append_dropWhile (p := (·.expired now expiry))
  have front : ∀ e ∈ r.parked.takeWhile (·.expired now expiry), e.expired now expiry = true :=
    fun e => List.all_eq_true.mp List.all_takeWhile e
  have back : ∀ e ∈ r.parked.dropWhile (·.expired now expiry), e.expired now expiry = false :=
    fun e => not_expired_of_mem_dropWhile sorted
  rw [evict]
  generalize r.parked.takeWhile _ = expired at parts front ⊢
  generalize r.parked.dropWhile _ = young at parts back ⊢
  rw [← parts, List.filter_append, List.filter_append, List.filter_eq_self.mpr front,
    List.filter_eq_nil_iff.mpr fun e member => by simp [back e member],
    List.filter_eq_nil_iff.mpr fun e member => by simp [front e member],
    List.filter_eq_self.mpr fun e member => by simp [back e member],
    List.append_nil, List.nil_append]

/-- A round that is not too early dismisses all who have expired, and they stand at the front. -/
theorem sweep_eq_pass (h : r.sweep expiry now tick = .pass next dismissed kept)
    (sorted : r.parked.Pairwise fun a b => a.since ≤ b.since) (positive : 0 < expiry) :
    ∃ expired : List Parked, dismissed = expired.map (·.worker) ∧ r.parked = expired ++ kept.parked ∧
      (∀ e ∈ expired, e.since + expiry ≤ now) ∧ ∀ e ∈ kept.parked, now < e.since + expiry := by
  obtain ⟨-, -, evicted⟩ := sweep_eq_pass_iff.mp h
  obtain ⟨rfl, rfl⟩ := Prod.mk.inj evicted
  refine ⟨_, rfl, List.takeWhile_append_dropWhile.symm, ?_, ?_⟩
  · intro e member
    exact (Parked.expired_iff positive).mp (List.all_eq_true.mp List.all_takeWhile e member)
  · intro e member
    have young := not_expired_of_mem_dropWhile sorted member
    have early : ¬ e.since + expiry ≤ now := by
      intro late
      rw [(Parked.expired_iff positive).mpr late] at young
      cases young
    exact Nat.lt_of_not_le early

/-- The tick never moves back, and if it stays where it is, it lies ahead. -/
theorem next_cases (h : r.sweep expiry now tick = .pass next dismissed kept) :
    (tick ≤ now ∧ next = now + expiry) ∨ (now < tick ∧ next = tick) := by
  obtain ⟨-, ticked, -⟩ := sweep_eq_pass_iff.mp h
  unfold nextTick? at ticked
  split at ticked
  · rename_i due
    obtain ⟨-, rfl⟩ := later?_eq_some_iff.mp ticked
    exact .inl ⟨due, rfl⟩
  · rename_i ahead
    cases ticked
    exact .inr ⟨Nat.lt_of_not_le ahead, rfl⟩

/-- The next regular round comes within one expiry. -/
theorem next_le (h : r.sweep expiry now tick = .pass next dismissed kept) (le : tick ≤ now + expiry) :
    next ≤ now + expiry := by
  rcases next_cases h with ⟨-, rfl⟩ | ⟨-, rfl⟩
  · exact Nat.le_refl _
  · exact le

end Roster
end WorkerPool
