import WorkerPool.Proofs.Pool.Wakeup

/-!
# The gauge of running workers

The number of running workers is changed in one step, read in another and written to the gauge in a
third; a call that is refused its thread takes its change back and writes nothing. As long as no two
participants are on this way at once, the gauge shows the number whenever nobody is on it. If a
participant overtakes another, an old number may be the last one written, and then it stays.
-/

namespace WorkerPool

/-- How far a participant has come with a change of the number of running workers. -/
inductive Change
  | none
  /-- The number is raised. -/
  | raised
  | lowered
  /-- The number has been read and is about to be written to the gauge. -/
  | read (count : Nat)
  deriving DecidableEq

def Change.isRaised : Change → Bool
  | .raised => true
  | _ => false

def Change.isLowered : Change → Bool
  | .lowered => true
  | _ => false

def Change.isRead : Change → Bool
  | .read _ => true
  | _ => false

def Change.isOpen : Change → Bool
  | .none => false
  | _ => true

/-- Whether the number read is no longer the present one. -/
def Change.isStale (running : Nat) : Change → Bool
  | .read count => count != running
  | _ => false

def Phase.change : Phase → Change
  | .reserved | .starting _ | .started _ | .refused => .raised
  | .publishing _ count => .read count
  | _ => .none

def WorkerPhase.change : WorkerPhase → Change
  | .lowered => .lowered
  | .publishing count => .read count
  | _ => .none

namespace Pool

variable {α : Type} {plan : Plan} {p q start : Pool α} {label : Label α} {labels : List (Label α)}
  {call thread slot : Nat} {wakes : Option Nat} {kind : Change → Bool}

def changes (p : Pool α) (kind : Change → Bool) : Nat :=
  p.tally (fun phase => kind phase.change) fun w => kind w.phase.change

theorem changes_add {one other : Change → Bool}
    (h : ∀ change, (kind change).toNat = (one change).toNat + (other change).toNat) (p : Pool α) :
    p.changes kind = p.changes one + p.changes other := by
  have calls := p.callsIn_add fun phase => h phase.change
  have workers := p.workersIn_add fun w => h w.phase.change
  unfold changes tally
  omega

theorem changes_isOpen (p : Pool α) : p.changes Change.isOpen =
    p.changes Change.isRaised + p.changes Change.isLowered + p.changes Change.isRead := by
  have read : p.changes Change.isOpen =
      p.changes (fun change => change.isRaised || change.isLowered) + p.changes Change.isRead :=
    p.changes_add fun change => by cases change <;> rfl
  have unread : p.changes (fun change => change.isRaised || change.isLowered) =
      p.changes Change.isRaised + p.changes Change.isLowered :=
    p.changes_add fun change => by cases change <;> rfl
  omega

theorem changes_isStale_le (p : Pool α) (running : Nat) :
    p.changes (Change.isStale running) ≤ p.changes Change.isRead := by
  have read (change : Change) (h : change.isStale running = true) : change.isRead = true := by
    cases change <;> first | rfl | cases h
  have calls := p.callsIn_mono fun phase => read phase.change
  have workers := p.workersIn_mono fun w => read w.phase.change
  unfold changes tally
  omega

/-- What a step does to the number of running workers and to its gauge, while the participant goes from
one stage of a change to the next. -/
inductive Gauging (p q : Pool α) : Change → Change → Prop
  | keep {change} (running : q.running = p.running) (shown : q.meters.running = p.meters.running) :
      Gauging p q change change
  | raise (running : q.running = p.running + 1) (shown : q.meters.running = p.meters.running) :
      Gauging p q .none .raised
  | takeBack (running : q.running + 1 = p.running) (shown : q.meters.running = p.meters.running) :
      Gauging p q .raised .none
  | lower (running : q.running + 1 = p.running) (shown : q.meters.running = p.meters.running) :
      Gauging p q .none .lowered
  | read {change} (unread : change.isRead = false) (running : q.running = p.running) :
      Gauging p q change (.read p.running)
  | write {count} (running : q.running = p.running) (shown : q.meters.running = .ofNat count) :
      Gauging p q (.read count) .none

def Shifts (p q : Pool α) (old new : Change) : Prop :=
  ∀ kind : Change → Bool, kind .none = false →
    q.changes kind + (kind old).toNat = p.changes kind + (kind new).toNat

theorem blind_change (kind : Change → Bool) : Blind fun _ phase => kind phase.change := fun _ phase => by
  cases phase <;> rfl

theorem CallMove.gauging {old new : Phase} (moves : CallMove p call wakes old new q)
    (positive : old.reserves = true → 0 < p.running) :
    Gauging p (q.setPhase call new) old.change new.change := by
  cases moves with
  | reserve => exact .raise rfl rfl
  | count => exact .read rfl rfl
  | publish => exact .write rfl rfl
  | giveBack => exact .takeBack (lowered_of_pos (positive rfl)) rfl
  | _ => exact .keep rfl rfl

theorem ThreadMove.gauging {granted : Bool} {old new : Phase} (moves : ThreadMove p granted old new q) :
    Gauging p (q.setPhase call new) old.change new.change := by
  cases moves <;> exact .keep rfl rfl

theorem ThreadMove.shifts {granted : Bool} {old new : Phase} (moves : ThreadMove p granted old new q)
    (now : p.phase? call = some old) : Shifts p (q.setPhase call new) old.change new.change := by
  intro kind none
  have tally := moves.tally (fun phase => kind phase.change) (fun w => kind w.phase.change) now
  have hired : (new.hired.any fun w => kind w.phase.change) = false := by
    cases new <;> first | rfl | exact none
  rw [hired, Bool.toNat_false, Nat.add_zero] at tally
  exact tally

theorem WorkerMove.gauging {old new : WorkerPhase} (moves : WorkerMove p slot wakes old new q)
    (positive : old.counts = true → 0 < p.running) :
    Gauging p (q.setWorker thread new) old.change new.change := by
  cases moves with
  | lower => exact .lower (lowered_of_pos (positive rfl)) rfl
  | count => exact .read rfl rfl
  | publish => exact .write rfl rfl
  | _ => exact .keep rfl rfl

theorem Shifts.of_changes (h : ∀ kind, kind Change.none = false → q.changes kind = p.changes kind) :
    Shifts p q .none .none := fun kind none => congrArg (· + (kind .none).toNat) (h kind none)

theorem Move.gauging (moves : p.Move label q) (balanced : Balanced p) :
    ∃ old new, Gauging p q old new ∧ Shifts p q old new := by
  cases moves with
  | pass => exact ⟨.none, .none, .keep rfl rfl, .of_changes fun _ _ => rfl⟩
  | @invoke op =>
    refine ⟨.none, .none, .keep rfl rfl, .of_changes fun kind none => ?_⟩
    have nothing : kind op.firstPhase.change = false := by cases op <;> exact none
    unfold changes
    rw [tally_invoke, nothing]
    rfl
  | call now moves =>
    exact ⟨_, _, moves.gauging (balanced.reserved_pos now), fun kind _ =>
      moves.tally _ now fun _ => blind_change kind⟩
  | thread now moves => exact ⟨_, _, moves.gauging, moves.shifts now⟩
  | stir =>
    exact ⟨.none, .none, .keep rfl rfl, .of_changes fun kind _ => tally_rouse (blind_change kind) ..⟩
  | worker now moves =>
    exact ⟨_, _, moves.gauging (balanced.counted_pos now), fun kind _ =>
      moves.tally (fun w => kind w.phase.change) now fun _ => blind_change kind⟩
  | @finish thread outcome slot task now =>
    refine ⟨.none, .none, .keep rfl rfl, fun kind none => ?_⟩
    have tally := tally_finish (fun phase => kind phase.change) (fun w => kind w.phase.change) outcome now
    have nothing : outcome.aftermath.change = .none := by cases outcome <;> rfl
    dsimp only at tally
    rwa [nothing] at tally
  | sweeper now moves =>
    refine ⟨.none, .none, ?_, .of_changes fun kind _ => moves.tally ..⟩
    cases moves <;> exact .keep rfl rfl
  | stirSweeper => exact ⟨.none, .none, .keep rfl rfl, .of_changes fun _ _ => rfl⟩

/-- The gauge lacks the changes that are under way, and whoever is about to write to it has read the
present number. -/
structure Mirrored (p : Pool α) : Prop where
  gauge : p.changes Change.isRead = 0 → ∃ shown, p.meters.running = .ofNat shown ∧
    shown + p.changes Change.isRaised = p.running + p.changes Change.isLowered
  current : p.changes (Change.isStale p.running) = 0

theorem Mirrored.of_unread (unread : p.changes Change.isRead = 0)
    (gauge : ∃ shown, p.meters.running = .ofNat shown ∧
      shown + p.changes Change.isRaised = p.running + p.changes Change.isLowered) : Mirrored p :=
  ⟨fun _ => gauge, Nat.le_zero.mp (unread ▸ p.changes_isStale_le p.running)⟩

theorem Mirrored.move (h : Mirrored p) (alone : p.changes Change.isOpen ≤ 1)
    (still : q.changes Change.isOpen ≤ 1) (balanced : Balanced p) (moves : p.Move label q) :
    Mirrored q := by
  obtain ⟨old, new, gauging, shifts⟩ := moves.gauging balanced
  rw [changes_isOpen] at alone still
  have raised := shifts Change.isRaised rfl
  have lowered := shifts Change.isLowered rfl
  have read := shifts Change.isRead rfl
  have stale := shifts (Change.isStale p.running) rfl
  cases gauging with
  | keep running shown =>
    have raised := Nat.add_right_cancel raised
    have lowered := Nat.add_right_cancel lowered
    have read := Nat.add_right_cancel read
    have stale := Nat.add_right_cancel stale
    constructor
    · rw [raised, lowered, read, running, shown]
      exact h.gauge
    · rw [running, stale]
      exact h.current
  -- Nobody else is on the way, so nobody is about to write.
  | raise running shown | takeBack running shown | lower running shown =>
    simp only [Change.isRaised, Change.isLowered, Change.isRead, Bool.toNat_false, Bool.toNat_true]
      at raised lowered read
    obtain ⟨number, gauge, sum⟩ := h.gauge (by omega)
    exact .of_unread (by omega) ⟨number, shown.trans gauge, by omega⟩
  -- Until it is written, the gauge need not agree.
  | read unread running =>
    have current := h.current
    have present : (Change.read p.running).isStale p.running = false := bne_self_eq_false ..
    have reads : (Change.read p.running).isRead = true := rfl
    rw [present, Bool.toNat_false] at stale
    rw [unread, reads, Bool.toNat_false, Bool.toNat_true] at read
    constructor
    · intro nobody
      omega
    · rw [running]
      omega
  | @write count running shown =>
    have current := h.current
    simp only [Change.isRaised, Change.isLowered, Change.isRead, Bool.toNat_false, Bool.toNat_true]
      at raised lowered read
    have present : (Change.read count).isStale p.running = false :=
      Bool.toNat_eq_zero.mp (by simp only [Change.isStale, Bool.toNat_false] at stale ⊢; omega)
    have same : count = p.running := by simpa [Change.isStale] using present
    exact .of_unread (by omega) ⟨count, shown, by omega⟩

/-- The number of participants that are on the way after a step. -/
def crowding (_ : Pool α) (_ : Label α) (q : Pool α) : List Nat := [q.changes Change.isOpen]

theorem Mirrored.run (built : build plan true = .ok start) (ran : start.run labels = some p)
    (alone : ∀ n ∈ start.gather crowding labels, n ≤ 1) : Mirrored p := by
  have first : (∀ n ∈ ([] : List Nat), n ≤ 1) →
      (fresh α plan).changes Change.isOpen ≤ 1 ∧ Mirrored (fresh α plan) :=
    fun _ => ⟨Nat.zero_le 1, fun _ => ⟨0, rfl, rfl⟩, rfl⟩
  refine (gather_induction (P := fun p counts =>
    (∀ n ∈ counts, n ≤ 1) → p.changes Change.isOpen ≤ 1 ∧ Mirrored p) built ran first ?_ alone).2
  intro r s label before between ih moves all
  obtain ⟨earlier, h⟩ := ih fun n member => all n (List.mem_append_left _ member)
  have still := all _ (List.mem_append_right _ (List.mem_singleton_self _))
  exact ⟨still, h.move earlier still between.balanced moves⟩

theorem Quiescent.changes_isOpen (quiet : Quiescent p) : p.changes Change.isOpen = 0 := by
  have calls : p.callsIn (fun phase => phase.change.isOpen) = 0 :=
    quiet.callsIn_eq_zero fun phase rests => by cases phase <;> first | rfl | cases rests
  have workers : p.workersIn (·.phase.change.isOpen) = 0 :=
    quiet.workersIn_eq_zero (·.change.isOpen) rfl (fun _ => rfl) rfl rfl
  unfold changes tally
  omega

/-- As long as changes of the number of running workers do not overlap, the gauge shows the number in
every pool at rest. -/
theorem gauge_at_rest (built : build plan true = .ok start) (ran : start.run labels = some p)
    (alone : ∀ n ∈ start.gather crowding labels, n ≤ 1) (quiet : Quiescent p) :
    p.meters.running = .ofNat p.running := by
  have nobody := quiet.changes_isOpen
  rw [Pool.changes_isOpen] at nobody
  obtain ⟨shown, gauge, sum⟩ := (Mirrored.run built ran alone).gauge (by omega)
  rw [gauge, show shown = p.running by omega]

/-- A refused start and a retirement one after the other. -/
theorem gauge_at_rest_after_retirement : ∃ p : Pool Unit, Reachable { capacity := 2 } p ∧
    Quiescent p ∧ p.workers.map (·.phase) = [.gone, .executing 2] ∧ p.running = 1 ∧
    p.meters.running = .ofNat p.running := by
  let start := fresh Unit { capacity := 2 }
  let labels : List (Label Unit) :=
    hiring 0 0 ++ [.invoke .submit, .call 1 none, .call 1 none, .thread 1 false, .call 1 none,
      .call 1 none] ++ hiring 2 1 ++ [.invoke .release, .call 3 none, .call 3 none, .call 3 none,
      .finish 0 (.returned ()), .worker 0 none, .worker 0 none, .worker 0 none, .worker 0 none,
      .worker 0 none, .worker 0 none]
  have built : build { capacity := 2 } true = .ok start := rfl
  have seen : (start.run labels).any (fun p => Quiescent p ∧
      p.workers.map (·.phase) = [.gone, .executing 2] ∧ p.running = 1) = true := by decide
  have alone : ∀ n ∈ start.gather crowding labels, n ≤ 1 := by decide
  obtain ⟨p, ran, seen⟩ := (Option.any_eq_true _ _).mp seen
  obtain ⟨quiet, phases, one⟩ := of_decide_eq_true seen
  exact ⟨p, ⟨start, labels, built, ran⟩, quiet, phases, one, gauge_at_rest built ran alone quiet⟩

/-- A submission raises the number before a retiring worker has written what it has read. -/
theorem gauge_stale_of_overtaking : ∃ p : Pool Unit, Reachable { capacity := 1 } p ∧ Quiescent p ∧
    p.running = 1 ∧ p.meters.running = 0 := by
  let labels : List (Label Unit) :=
    hiring 0 0 ++ [.invoke .release, .call 1 none, .call 1 none, .call 1 none,
      .finish 0 (.returned ()), .worker 0 none, .invoke .restart, .call 2 none, .thread 2 true,
      .worker 0 none, .worker 0 none, .worker 0 none] ++
      hiring 3 1 ++ [.worker 0 none, .worker 0 none]
  obtain ⟨p, reached, seen⟩ := exists_reachable { capacity := 1 } labels
    (fun p => Quiescent p ∧ p.running = 1 ∧ p.meters.running = 0) (by decide)
  exact ⟨p, reached, of_decide_eq_true seen⟩

/-- A submission writes a number that counts another one, which is then refused its thread. -/
theorem gauge_stale_of_refusal : ∃ p : Pool Unit, Reachable { capacity := 2 } p ∧ Quiescent p ∧
    p.running = 1 ∧ p.meters.running = 2 := by
  let labels : List (Label Unit) :=
    [.invoke .submit, .call 0 none] ++ hiring 1 0 ++
      [.call 0 none, .thread 0 false, .call 0 none, .call 0 none]
  obtain ⟨p, reached, seen⟩ := exists_reachable { capacity := 2 } labels
    (fun p => Quiescent p ∧ p.running = 1 ∧ p.meters.running = 2) (by decide)
  exact ⟨p, reached, of_decide_eq_true seen⟩

end Pool
end WorkerPool
