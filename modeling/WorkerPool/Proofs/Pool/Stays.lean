import WorkerPool.Proofs.Pool.Roster

/-!
# Stays in the roster

A stay begins when a worker joins the roster and ends with the operation that takes it out. What becomes
of stays is said without a place in a row: the next to end is the one that began last, those dismissed
are all that have lasted long enough, and the next expiry is that of the earliest. The roster gives the same
answers from its two ends, as long as time does not run backwards. So each stay is in the roster
still, or in one answer, though a worker can join many times.
-/

namespace WorkerPool

namespace Roster

inductive Op
  | push (worker now : Nat)
  | pop
  | nextExpiry (expiry : Nat)
  | evict (now expiry : Nat)
  | drain
  deriving DecidableEq, Repr

def Op.joins? : Op → Option Parked
  | .push worker now => some ⟨worker, now⟩
  | .pop | .nextExpiry _ | .evict .. | .drain => none

inductive Answer
  | nothing
  | worker (worker? : Option Nat)
  | moment (moment? : Option Nat)
  | workers (all : List Nat)
  deriving DecidableEq, Repr

def Answer.leaving : Answer → List Nat
  | .nothing | .moment _ => []
  | .worker worker? => worker?.toList
  | .workers all => all

def answer (r : Roster) : Op → Answer × Roster
  | .push worker now => (.nothing, r.push worker now)
  | .pop =>
    match r.pop? with
    | some (worker, kept) => (.worker (some worker), kept)
    | none => (.worker none, r)
  | .nextExpiry expiry => (.moment (r.nextExpiry? expiry), r)
  | .evict now expiry => (.workers (r.evict now expiry).1, (r.evict now expiry).2)
  | .drain => (.workers r.drain.1, r.drain.2)

def answers (r : Roster) : List Op → List Answer × Roster
  | [] => ([], r)
  | op :: rest =>
    let (first, next) := r.answer op
    let (others, last) := next.answers rest
    (first :: others, last)

end Roster

/-- A stay in the roster, with its number among all stays and that of the operation that has ended it. -/
structure Stay extends Parked where
  number : Nat
  ended? : Option Nat := none
  deriving DecidableEq, Repr

namespace Stay

open Roster (Op Answer)

def lasts (s : Stay) : Bool := s.ended?.isNone

def lasting (stays : List Stay) : List Stay := stays.filter lasts

def endedBy (n : Nat) (stays : List Stay) : List Stay := stays.filter (·.ended? == some n)

/-- Which of the lasting stays an operation ends. -/
def told (stays : List Stay) : Op → Stay → Bool
  | .push .. | .nextExpiry _ => fun _ => false
  | .pop => fun s => (lasting stays).all (·.number ≤ s.number)
  | .evict now expiry => fun s => expiry ≤ now - s.since
  | .drain => fun _ => true

def leaving (stays : List Stay) (op : Op) : List Stay := (lasting stays).filter (told stays op)

def staying (stays : List Stay) (op : Op) : List Stay := (lasting stays).filter (!told stays op ·)

def close (n : Nat) (s : Stay) : Stay := { s with ended? := some n }

/-- A stay after the operation with number `n`, which ends it if it lasts and is told to end. -/
def closeIf (n : Nat) (which : Stay → Bool) (s : Stay) : Stay :=
  if which s && s.lasts then s.close n else s

def after (stays : List Stay) (n : Nat) (op : Op) : List Stay :=
  stays.map (closeIf n (told stays op)) ++
    op.joins?.toList.map ({ toParked := ·, number := stays.length })

def roster (stays : List Stay) : Roster := ⟨(lasting stays).map (·.toParked)⟩

def answer (stays : List Stay) (op : Op) : Answer :=
  match op with
  | .push .. => .nothing
  | .pop => .worker ((leaving stays op).head?.map (·.worker))
  | .nextExpiry expiry => .moment (((lasting stays).map (·.since)).min?.map (· + expiry))
  | .evict .. | .drain => .workers ((leaving stays op).map (·.worker))

def answers (stays : List Stay) (n : Nat) : List Op → List Answer × List Stay
  | [] => ([], stays)
  | op :: rest =>
    let (others, last) := answers (after stays n op) (n + 1) rest
    (answer stays op :: others, last)

variable {stays : List Stay} {which : Stay → Bool} {s : Stay} {n m : Nat} {op : Op}
  {ops : List Op}

@[simp] theorem toParked_closeIf (n : Nat) (which : Stay → Bool) (s : Stay) :
    (s.closeIf n which).toParked = s.toParked := by
  unfold closeIf
  split <;> rfl

@[simp] theorem number_closeIf (n : Nat) (which : Stay → Bool) (s : Stay) :
    (s.closeIf n which).number = s.number := by
  unfold closeIf
  split <;> rfl

theorem closeIf_of_neg (h : (which s && s.lasts) = false) : s.closeIf n which = s := by
  rw [closeIf, h]
  rfl

theorem ended?_closeIf (n : Nat) (which : Stay → Bool) (s : Stay) :
    (s.closeIf n which).ended? = if which s && s.lasts then some n else s.ended? := by
  unfold closeIf
  split <;> rfl

theorem filter_map_eq {α : Type} {l : List α} {f g : α → α} {p q : α → Bool}
    (chosen : ∀ a ∈ l, p (f a) = q a) (same : ∀ a, q a = true → f a = g a) :
    (l.map f).filter p = (l.filter q).map g := by
  have filtered : l.filter (p ∘ f) = l.filter q := List.filter_congr chosen
  rw [List.filter_map, filtered]
  apply List.map_congr_left
  intro a member
  exact same a (List.mem_filter.mp member).2

theorem lasting_map_closeIf (n : Nat) (which : Stay → Bool) (stays : List Stay) :
    lasting (stays.map (closeIf n which)) = (lasting stays).filter (!which ·) := by
  rw [lasting, lasting, List.filter_filter, ← List.map_id (stays.filter _)]
  apply filter_map_eq
  · intro s _
    rw [lasts, ended?_closeIf]
    cases told : which s <;> cases lasts : s.lasts <;> simp_all [Stay.lasts]
  · intro s kept
    apply closeIf_of_neg
    cases told : which s with
    | true => simp [told] at kept
    | false => rfl

theorem endedBy_map_closeIf_of_ne (other : m ≠ n) (which : Stay → Bool) (stays : List Stay) :
    endedBy m (stays.map (closeIf n which)) = endedBy m stays := by
  rw [endedBy, endedBy, ← List.map_id (stays.filter _)]
  apply filter_map_eq
  · intro s _
    rw [ended?_closeIf]
    split
    · rename_i told
      have lasts : s.ended? = none := by simpa [lasts] using (Bool.and_eq_true_iff.mp told).2
      simp [lasts, Ne.symm other]
    · rfl
  · intro s ended
    apply closeIf_of_neg
    have closed : s.ended? = some m := by simpa using ended
    simp [lasts, closed]

theorem endedBy_map_closeIf (own : ∀ s ∈ stays, s.ended? ≠ some n) :
    endedBy n (stays.map (closeIf n which)) = ((lasting stays).filter which).map (close n) := by
  rw [endedBy, lasting, List.filter_filter]
  apply filter_map_eq
  · intro s member
    rw [ended?_closeIf]
    split
    · rename_i told
      simp [told]
    · rename_i untold
      simp [untold, own s member]
  · intro s told
    exact if_pos told

theorem lasting_after (stays : List Stay) (n : Nat) (op : Op) :
    lasting (after stays n op) =
      staying stays op ++ op.joins?.toList.map ({ toParked := ·, number := stays.length }) := by
  rw [after, lasting, List.filter_append, ← lasting, lasting_map_closeIf, staying]
  cases op.joins? <;> rfl

theorem endedBy_after (m : Nat) (stays : List Stay) (n : Nat) (op : Op) :
    endedBy m (after stays n op) = endedBy m (stays.map (closeIf n (told stays op))) := by
  rw [after, endedBy, List.filter_append, ← endedBy]
  cases op.joins? <;> simp

theorem toParked_after (stays : List Stay) (n : Nat) (op : Op) :
    (after stays n op).map (·.toParked) = stays.map (·.toParked) ++ op.joins?.toList := by
  simp [after, Function.comp_def]

structure Dated (stays : List Stay) (n : Nat) : Prop where
  numbers : stays.map (·.number) = List.range stays.length
  past : ∀ s ∈ stays, ∀ m ∈ s.ended?, m < n

theorem Dated.nothing : Dated [] 0 := ⟨rfl, nofun⟩

theorem Dated.own (h : Dated stays n) : ∀ s ∈ stays, s.ended? ≠ some n := by
  intro s member ended
  exact Nat.lt_irrefl n (h.past s member n ended)

theorem Dated.after (h : Dated stays n) (op : Op) : Dated (after stays n op) (n + 1) where
  numbers := by
    unfold Stay.after
    cases op.joins? <;> simp [Function.comp_def, h.numbers, List.range_succ]
  past s member m ended := by
    rcases List.mem_append.mp member with before | new
    · obtain ⟨old, known, rfl⟩ := List.mem_map.mp before
      rw [ended?_closeIf] at ended
      split at ended
      · cases ended
        exact Nat.lt_succ_self n
      · exact Nat.lt_succ_of_lt (h.past old known m ended)
    · obtain ⟨p, -, rfl⟩ := List.mem_map.mp new
      cases ended

theorem Dated.numbers_lt (h : Dated stays n) : (lasting stays).Pairwise (·.number < ·.number) := by
  have all : (stays.map (·.number)).Pairwise (· < ·) := h.numbers ▸ List.pairwise_lt_range
  exact (List.pairwise_map.mp all).filter _

/-- The stay that is told to end when one worker is to leave is the last in the row. -/
theorem Dated.pop (h : Dated stays n) :
    leaving stays .pop = (lasting stays).getLast?.toList ∧
      staying stays .pop = (lasting stays).dropLast := by
  -- The numbers increase along the row, so only the last stay has none after it.
  have increasing := h.numbers_lt
  rcases List.eq_nil_or_concat (lasting stays) with none | ⟨earlier, last, parts⟩
  · simp [leaving, staying, none]
  rw [List.concat_eq_append] at parts
  rw [parts] at increasing
  obtain ⟨-, -, before⟩ := List.pairwise_append.mp increasing
  have leaves : told stays .pop last = true := by
    simp only [told, parts, List.all_eq_true, decide_eq_true_eq]
    intro s member
    rcases List.mem_append.mp member with behind | here
    · exact Nat.le_of_lt (before s behind last (List.mem_singleton_self last))
    · exact Nat.le_of_eq (congrArg (·.number) (List.mem_singleton.mp here))
  have stay : ∀ s ∈ earlier, told stays .pop s = false := by
    intro s member
    have later := before s member last (List.mem_singleton_self last)
    simp only [told, parts, List.all_eq_false, decide_eq_true_eq]
    exact ⟨last, List.mem_append_right _ (List.mem_singleton_self last), Nat.not_le.mpr later⟩
  constructor
  · rw [leaving, parts, List.filter_append, List.filter_eq_nil_iff.mpr (by simpa using stay)]
    simp [leaves]
  · rw [staying, parts, List.filter_append, List.filter_eq_self.mpr (by simpa using stay)]
    simp [leaves]

theorem leaving_of_none (none : ∀ s, told stays op s = false) :
    leaving stays op = [] ∧ staying stays op = lasting stays :=
  ⟨List.filter_eq_nil_iff.mpr fun s _ => by simp [none s],
    List.filter_eq_self.mpr fun s _ => by simp [none s]⟩

theorem leaving_of_all (all : ∀ s, told stays op s = true) :
    leaving stays op = lasting stays ∧ staying stays op = [] :=
  ⟨List.filter_eq_self.mpr fun s _ => all s,
    List.filter_eq_nil_iff.mpr fun s _ => by simp [all s]⟩

theorem Dated.leaving_answer (h : Dated stays n) (op : Op) :
    (answer stays op).leaving = (leaving stays op).map (·.worker) := by
  cases op with
  | push | nextExpiry =>
    rw [(leaving_of_none fun _ => rfl).1]
    rfl
  | pop =>
    rw [answer, h.pop.1]
    cases (lasting stays).getLast? <;> rfl
  | evict | drain => rfl

theorem parked_roster_after (stays : List Stay) (n : Nat) (op : Op) :
    (roster (after stays n op)).parked = (staying stays op).map (·.toParked) ++ op.joins?.toList := by
  simp [roster, lasting_after, Function.comp_def]

theorem sorted_roster (sorted : (stays.map (·.toParked)).Pairwise fun a b => a.since ≤ b.since) :
    (roster stays).parked.Pairwise fun a b => a.since ≤ b.since :=
  sorted.sublist (List.filter_sublist.map _)

theorem min?_since (sorted : (roster stays).parked.Pairwise fun a b => a.since ≤ b.since) :
    ((lasting stays).map (·.since)).min? = (roster stays).parked.head?.map (·.since) := by
  rw [roster, List.head?_map, Option.map_map, List.min?_eq_head?, List.head?_map]
  · rfl
  · apply List.pairwise_map.mpr
    apply (List.pairwise_map.mp sorted).imp
    intro a b le
    exact Nat.min_eq_left le

/-- One operation on the roster is one on the stays; whom it leaves is known from `staying`. -/
theorem answer_roster (h : Dated stays n)
    (sorted : (stays.map (·.toParked)).Pairwise fun a b => a.since ≤ b.since) (op : Op) :
    (roster stays).answer op = (answer stays op, roster (after stays n op)) := by
  have sorted := sorted_roster sorted
  have kept := congrArg Roster.mk (parked_roster_after stays n op)
  rw [show roster (after stays n op) = _ from kept]
  cases op with
  | push worker now =>
    rw [(leaving_of_none fun _ => rfl).2]
    rfl
  | pop =>
    rw [h.pop.2, answer, h.pop.1, Roster.answer, Roster.pop?, roster, List.getLast?_map]
    cases last : (lasting stays).getLast? with
    | none => simp [List.getLast?_eq_none_iff.mp last, Op.joins?]
    | some s => simp [Op.joins?]
  | nextExpiry expiry =>
    rw [(leaving_of_none fun _ => rfl).2, answer, min?_since sorted, Option.map_map, Op.joins?,
      Option.toList_none, List.append_nil]
    rfl
  | evict now expiry =>
    rw [Roster.answer, Roster.evict_of_sorted sorted, answer, leaving, staying, roster,
      List.filter_map, List.filter_map, List.map_map, Op.joins?, Option.toList_none, List.append_nil]
    rfl
  | drain =>
    have everybody : leaving stays .drain = lasting stays ∧ staying stays .drain = [] :=
      leaving_of_all fun _ => rfl
    rw [answer, everybody.1, everybody.2, Roster.answer, Roster.drain, Roster.workers, roster,
      List.map_map]
    rfl

theorem joins_cons (op : Op) (rest : List Op) :
    (op :: rest).filterMap Op.joins? = op.joins?.toList ++ rest.filterMap Op.joins? := by
  rw [List.filterMap_cons]
  cases op.joins? <;> rfl

theorem toParked_answers (stays : List Stay) (n : Nat) (ops : List Op) :
    (answers stays n ops).2.map (·.toParked) =
      stays.map (·.toParked) ++ ops.filterMap Op.joins? := by
  induction ops generalizing stays n with
  | nil => exact (List.append_nil _).symm
  | cons op rest ih =>
    rw [answers, joins_cons, ← List.append_assoc, ← toParked_after stays n]
    exact ih _ _

theorem Dated.answers (h : Dated stays n) (ops : List Op) :
    Dated (answers stays n ops).2 (n + (answers stays n ops).1.length) := by
  induction ops generalizing stays n with
  | nil => exact h
  | cons op rest ih =>
    have later := ih (h.after op)
    rw [Nat.add_right_comm, Nat.add_assoc] at later
    exact later

/-- What an operation has ended, later ones leave ended. -/
theorem endedBy_answers (before : m < n) (stays : List Stay) (ops : List Op) :
    endedBy m (answers stays n ops).2 = endedBy m stays := by
  induction ops generalizing stays n with
  | nil => rfl
  | cons op rest ih =>
    calc endedBy m (answers stays n (op :: rest)).2
      _ = endedBy m (after stays n op) := ih (Nat.lt_succ_of_lt before) _
      _ = endedBy m (stays.map (closeIf n (told stays op))) := endedBy_after m stays n op
      _ = endedBy m stays := endedBy_map_closeIf_of_ne (Nat.ne_of_lt before) _ stays

theorem Dated.leaving_answers (h : Dated stays n) {k : Nat} {a : Answer}
    (given : (Stay.answers stays n ops).1[k]? = some a) :
    a.leaving = (endedBy (n + k) (Stay.answers stays n ops).2).map (·.worker) := by
  induction ops generalizing stays n k with
  | nil => cases given
  | cons op rest ih =>
    cases k with
    | zero =>
      -- Whom the first operation has ended keeps its number through all the others.
      obtain rfl := Option.some.inj given
      have kept := endedBy_answers (Nat.lt_succ_self n) (Stay.after stays n op) rest
      rw [h.leaving_answer]
      change _ = (endedBy n (Stay.answers (Stay.after stays n op) (n + 1) rest).2).map _
      rw [kept, endedBy_after, endedBy_map_closeIf h.own, List.map_map]
      rfl
    | succ k =>
      have later := ih (h.after op) given
      rw [Nat.add_right_comm] at later
      exact later

theorem answers_roster (h : Dated stays n)
    (in_order : (stays.map (·.toParked) ++ ops.filterMap Op.joins?).Pairwise
      fun a b => a.since ≤ b.since) :
    (roster stays).answers ops = ((answers stays n ops).1, roster (answers stays n ops).2) := by
  induction ops generalizing stays n with
  | nil => rfl
  | cons op rest ih =>
    have step := answer_roster h (List.pairwise_append.mp in_order).1 op
    rw [joins_cons, ← List.append_assoc, ← toParked_after stays n] at in_order
    have later := ih (h.after op) in_order
    rw [Roster.answers, step]
    dsimp only
    rw [later]
    rfl

end Stay

namespace Roster

variable {ops : List Op} {answers : List Answer} {stays : List Stay}

/-- As long as nobody joins earlier than those before, a roster answers what its stays tell. There is
one for each time that a worker has joined, and it is in the roster, in which those who have waited
longest stand first, or in the answer to the one operation that has ended it. -/
theorem answers_of_stays (in_order : (ops.filterMap Op.joins?).Pairwise fun a b => a.since ≤ b.since)
    (told : Stay.answers [] 0 ops = (answers, stays)) :
    ({} : Roster).answers ops = (answers, ⟨(Stay.lasting stays).map (·.toParked)⟩) ∧
      ((Stay.lasting stays).map (·.toParked)).Pairwise (fun a b => a.since ≤ b.since) ∧
      stays.map (·.toParked) = ops.filterMap Op.joins? ∧
      stays.map (·.number) = List.range stays.length ∧
      (∀ s ∈ stays, ∀ n ∈ s.ended?, n < answers.length) ∧
      ∀ n answer, answers[n]? = some answer →
        answer.leaving = (Stay.endedBy n stays).map (·.worker) ∧
          (Stay.endedBy n stays).Pairwise fun a b => a.since ≤ b.since := by
  have started := Stay.Dated.nothing
  have run := Stay.answers_roster started in_order
  have joined := Stay.toParked_answers [] 0 ops
  have dated := started.answers ops
  have leaving : ∀ n answer, (Stay.answers [] 0 ops).1[n]? = some answer →
      answer.leaving = (Stay.endedBy (0 + n) (Stay.answers [] 0 ops).2).map (·.worker) :=
    fun _ _ => started.leaving_answers
  simp only [told, Nat.zero_add] at run joined dated leaving
  have sorted : (stays.map (·.toParked)).Pairwise fun a b => a.since ≤ b.since := joined ▸ in_order
  refine ⟨run, Stay.sorted_roster sorted, joined, dated.numbers, dated.past, ?_⟩
  intro n answer given
  exact ⟨leaving n answer given, (List.pairwise_map.mp sorted).filter _⟩

/-- The second worker joins twice. One round looks back in time and waits for nothing. -/
theorem answers_of_two_stays :
    let ops : List Op := [.push 0 0, .push 1 100, .pop, .push 1 800, .evict 700 700, .nextExpiry 1000,
      .evict 0 0, .pop]
    let answers : List Answer := [.nothing, .nothing, .worker (some 1), .nothing, .workers [0],
      .moment (some 1800), .workers [1], .worker none]
    let stays : List Stay := [⟨⟨0, 0⟩, 0, some 4⟩, ⟨⟨1, 100⟩, 1, some 2⟩, ⟨⟨1, 800⟩, 2, some 6⟩]
    (ops.filterMap Op.joins?).Pairwise (fun a b => a.since ≤ b.since) ∧
      Stay.answers [] 0 ops = (answers, stays) ∧ ({} : Roster).answers ops = (answers, {}) ∧
      ∀ n answer, answers[n]? = some answer → answer.leaving = (Stay.endedBy n stays).map (·.worker) := by
  intro ops answers stays
  have in_order : (ops.filterMap Op.joins?).Pairwise fun a b => a.since ≤ b.since := by decide
  have told : Stay.answers [] 0 ops = (answers, stays) := rfl
  obtain ⟨run, -, -, -, -, leaving⟩ := answers_of_stays in_order told
  exact ⟨in_order, told, run, fun n answer given => (leaving n answer given).1⟩

end Roster
end WorkerPool
