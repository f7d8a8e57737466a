/-!
The workers that wait for a task, in the order in which they began to wait. The next task goes
to the one that has waited least; those that have waited too long are dismissed from the front, in
rounds of a sweeper. Rounds come at regular ticks, one expiry apart, and before that whenever the
longest waiting worker has waited for the expiry.

Moments and lengths of time are counted in nanoseconds. A moment is a reading of the clock, whose
seconds have 63 bits; who adds a length of time to a moment and comes out behind the last one, panics.
-/

namespace WorkerPool

def lastMoment : Nat := 9223372036854775807 * 1000000000 + 999999999

/-- The moment that comes so long after another. -/
def later? (moment length : Nat) : Option Nat :=
  if moment + length ≤ lastMoment then some (moment + length) else none

structure Parked where
  worker : Nat
  since : Nat
  deriving DecidableEq, Repr

/-- Whether a worker has waited for at least `expiry`; a wait that has not begun is zero. -/
def Parked.expired (now expiry : Nat) (p : Parked) : Bool := expiry ≤ now - p.since

/-- Waiting workers, the longest waiting first. -/
structure Roster where
  parked : List Parked := []
  deriving DecidableEq, Repr

namespace Roster

def workers (r : Roster) : List Nat := r.parked.map (·.worker)

def size (r : Roster) : Nat := r.parked.length

def push (r : Roster) (worker now : Nat) : Roster := ⟨r.parked ++ [⟨worker, now⟩]⟩

/-- The worker that came last, and the roster without it. -/
def pop? (r : Roster) : Option (Nat × Roster) :=
  r.parked.getLast?.map fun p => (p.worker, ⟨r.parked.dropLast⟩)

/-- The moment at which the longest waiting worker has waited for `expiry`, be there such a moment or
not. -/
def nextExpiry? (r : Roster) (expiry : Nat) : Option Nat :=
  r.parked.head?.map (·.since + expiry)

/-- The workers dismissed from the front as too long waiting, and the roster without them. -/
def evict (r : Roster) (now expiry : Nat) : List Nat × Roster :=
  ((r.parked.takeWhile (·.expired now expiry)).map (·.worker),
    ⟨r.parked.dropWhile (·.expired now expiry)⟩)

/-- The moment up to which a sweeper has nothing to do. -/
def deadline? (r : Roster) (expiry tick : Nat) : Option Nat :=
  match r.nextExpiry? expiry with
  | some moment => if moment ≤ lastMoment then some (min moment tick) else none
  | none => some tick

def drain (r : Roster) : List Nat × Roster := (r.workers, {})

@[simp] theorem workers_push (r : Roster) (worker now : Nat) :
    (r.push worker now).workers = r.workers ++ [worker] := by
  simp [workers, push]

theorem pop?_push (r : Roster) (worker now : Nat) :
    (r.push worker now).pop? = some (worker, r) := by
  simp [pop?, push]

theorem pop?_eq_none_iff (r : Roster) : r.pop? = none ↔ r.parked = [] := by
  simp [pop?]

theorem evict_append (r : Roster) (now expiry : Nat) :
    (r.evict now expiry).1 ++ (r.evict now expiry).2.workers = r.workers := by
  simp [evict, workers, ← List.map_append]

end Roster

inductive Sweep
  /-- It has come too early and sleeps until the deadline. -/
  | sleep (deadline : Nat)
  /-- It dismisses workers and keeps the others. -/
  | pass (tick : Nat) (dismissed : List Nat) (kept : Roster)
  /-- It would need a moment behind the last. -/
  | fall
  deriving DecidableEq, Repr

def nextTick? (expiry now tick : Nat) : Option Nat :=
  if tick ≤ now then later? now expiry else some tick

/-- The round of a sweeper that looks at the roster at the moment `now`. -/
def Roster.sweep (r : Roster) (expiry now tick : Nat) : Sweep :=
  match r.deadline? expiry tick with
  | none => .fall
  | some deadline =>
    if now < deadline then .sleep deadline
    else match nextTick? expiry now tick with
    | none => .fall
    | some next =>
      let (dismissed, kept) := r.evict now expiry
      .pass next dismissed kept

end WorkerPool
