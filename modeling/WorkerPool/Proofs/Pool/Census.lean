import WorkerPool.Proofs.Pool.Run

/-!
# Counting participants

Invariants of a pool are equations between what is shared and the number of participants of some
kind: calls in certain phases and workers in certain phases. A move changes such a tally by its own
participant alone, and `CallMove.tally`, `ThreadMove.tally` and `WorkerMove.tally` say by how much.
A move that wakes others is followed only by views that do not look at whether a call waits.
-/

namespace WorkerPool

/-- The new worker of a call that has just got a thread. -/
def Phase.hired : Phase → Option Worker
  | .started slot => some { slot }
  | _ => none

def Phase.wakes : Phase → Bool
  | .passingOn | .wakingSubmitters _ => true
  | _ => false

def WorkerPhase.wakes : WorkerPhase → Bool
  | .parking | .leaving => true
  | _ => false

def Label.caller? {α : Type} : Label α → Option Nat
  | .call mover _ | .thread mover _ => some mover
  | _ => none

namespace Pool

variable {α : Type} {p q : Pool α} {call thread slot : Nat} {wakes : Option Nat}

/-- What there is to see of each call. -/
def views {β : Type} (p : Pool α) (view : Op → Phase → β) : List β :=
  p.calls.map fun c => view c.op c.phase

/-- Number of calls in a phase of a kind. -/
def callsIn (p : Pool α) (kind : Phase → Bool) : Nat := (p.views fun _ => kind).count true

/-- Number of workers of a kind. -/
def workersIn (p : Pool α) (kind : Worker → Bool) : Nat := p.workers.countP kind

def tally (p : Pool α) (kind : Phase → Bool) (trade : Worker → Bool) : Nat :=
  p.callsIn kind + p.workersIn trade

/-- Whether a view leaves open if a call waits or has been woken. -/
def Blind {β : Type} (view : Op → Phase → β) : Prop :=
  ∀ op phase, view op phase.rouse = view op phase

theorem map_modify_of_eq {β γ : Type} {f : β → β} {g : β → γ} (h : ∀ b, g (f b) = g b)
    (l : List β) (i : Nat) : (l.modify i f).map g = l.map g := by
  induction l generalizing i with
  | nil => simp
  | cons b l ih => cases i <;> simp [h, ih]

theorem map_modify_eq_set {β γ : Type} {l : List β} {i : Nat} {b : β} (f : β → β) (g : β → γ)
    (h : l[i]? = some b) : (l.modify i f).map g = (l.map g).set i (g (f b)) := by
  induction l generalizing i with
  | nil => simp
  | cons c l ih =>
    cases i with
    | zero => simp_all
    | succ i => simp [ih (i := i) (by simpa using h)]

theorem count_true_set {l : List Bool} {i : Nat} {a : Bool} (h : l[i]? = some a) (b : Bool) :
    (l.set i b).count true + a.toNat = l.count true + b.toNat := by
  induction l generalizing i with
  | nil => simp at h
  | cons c l ih =>
    cases i with
    | zero =>
      obtain rfl : c = a := by simpa using h
      cases b <;> cases c <;> simp
    | succ i =>
      have := ih (i := i) (by simpa using h)
      simp only [List.set_cons_succ, List.count_cons]
      omega

theorem countP_cons_toNat {β : Type} (kind : β → Bool) (b : β) (l : List β) :
    (b :: l).countP kind = l.countP kind + (kind b).toNat := by
  rw [List.countP_cons]
  cases kind b <;> rfl

theorem countP_modify {β : Type} {kind : β → Bool} {l : List β} {i : Nat} {b : β} (f : β → β)
    (h : l[i]? = some b) :
    (l.modify i f).countP kind + (kind b).toNat = l.countP kind + (kind (f b)).toNat := by
  induction l generalizing i with
  | nil => simp at h
  | cons c l ih =>
    cases i with
    | zero =>
      obtain rfl : c = b := by simpa using h
      simp only [List.modify_zero_cons, countP_cons_toNat]
      omega
    | succ i =>
      have := ih (i := i) (by simpa using h)
      simp only [List.modify_succ_cons, countP_cons_toNat]
      omega

theorem countP_add {β : Type} {kind one other : β → Bool}
    (h : ∀ b, (kind b).toNat = (one b).toNat + (other b).toNat) (l : List β) :
    l.countP kind = l.countP one + l.countP other := by
  induction l with
  | nil => rfl
  | cons b l ih =>
    have := h b
    simp only [countP_cons_toNat, ih]
    omega

theorem callsIn_add {kind one other : Phase → Bool}
    (h : ∀ phase, (kind phase).toNat = (one phase).toNat + (other phase).toNat) (p : Pool α) :
    p.callsIn kind = p.callsIn one + p.callsIn other := by
  have sum := countP_add (fun c : Call α => h c.phase) p.calls
  simpa [callsIn, views, List.count, List.countP_map, Function.comp_def] using sum

theorem workersIn_add {kind one other : Worker → Bool}
    (h : ∀ w, (kind w).toNat = (one w).toNat + (other w).toNat) (p : Pool α) :
    p.workersIn kind = p.workersIn one + p.workersIn other :=
  countP_add h p.workers

theorem views_setPhase {β : Type} {c : Call α} (now : p.calls[call]? = some c) (new : Phase)
    (view : Op → Phase → β) :
    (p.setPhase call new).views view = (p.views view).set call (view c.op new) :=
  map_modify_eq_set _ _ now

theorem views_getElem? {β : Type} {c : Call α} (now : p.calls[call]? = some c)
    (view : Op → Phase → β) : (p.views view)[call]? = some (view c.op c.phase) := by
  simp [views, now]

theorem callsIn_setPhase {old : Phase} (now : p.phase? call = some old) (new : Phase)
    (kind : Phase → Bool) :
    (p.setPhase call new).callsIn kind + (kind old).toNat = p.callsIn kind + (kind new).toNat := by
  obtain ⟨c, made, rfl⟩ := Option.map_eq_some_iff.mp now
  unfold callsIn
  rw [views_setPhase made]
  exact count_true_set (views_getElem? made fun _ => kind) (kind new)

theorem views_setCell {β : Type} (p : Pool α) (call : Nat) (cell : Cell α) (view : Op → Phase → β) :
    (p.setCell call cell).views view = p.views view := by
  apply map_modify_of_eq
  intro c
  rfl

/-- A call that moves on to a phase of another kind adds nothing, whatever it was before. -/
theorem callsIn_setPhase_le {kind : Phase → Bool} {new : Phase} (p : Pool α) (call : Nat)
    (h : kind new = false) : (p.setPhase call new).callsIn kind ≤ p.callsIn kind := by
  cases now : p.phase? call with
  | some old =>
    have change := callsIn_setPhase now new kind
    rw [h, Bool.toNat_false] at change
    omega
  | none =>
    have outside : p.calls.length ≤ call := by simpa [phase?] using now
    have same : (p.setPhase call new).calls = p.calls := List.modify_eq_self outside
    exact Nat.le_of_eq (by rw [callsIn, views, same]; rfl)

/-- Messages that are thrown away change no phase. -/
theorem views_putSlot {β : Type} (p : Pool α) (slot : Nat) (view : Op → Phase → β) :
    (p.putSlot slot).views view = p.views view := by
  suffices ∀ (queue : List (Message Nat)) (r : Pool α),
      (queue.foldl discard r).views view = r.views view from
    this _ { p with slots := p.slots.put slot }
  intro queue
  induction queue with
  | nil => exact fun r => rfl
  | cons message queue ih =>
    intro r
    rw [List.foldl_cons, ih]
    cases message with
    | run task => exact views_setCell r task .failed view
    | stop => rfl

section Blind

variable {β : Type} {view : Op → Phase → β} (blind : Blind view)
include blind

theorem views_rouse (p : Pool α) (call : Nat) : (p.rouse call).views view = p.views view :=
  map_modify_of_eq (fun c => blind c.op c.phase) _ _

theorem views_wakeOne (woke : p.wakeOne wakes = some q) : q.views view = p.views view := by
  rcases wakeOne_cases woke with ⟨-, rfl⟩ | ⟨other, -, rfl⟩
  · rfl
  · exact views_rouse blind p other

theorem views_wakeSubmitters (p : Pool α) : p.wakeSubmitters.views view = p.views view := by
  simp [views, wakeSubmitters, blind _]

end Blind

theorem callsIn_pos {kind : Phase → Bool} {phase : Phase} (now : p.phase? call = some phase)
    (h : kind phase = true) : 0 < p.callsIn kind := by
  obtain ⟨c, made, rfl⟩ := Option.map_eq_some_iff.mp now
  have found := views_getElem? made fun _ => kind
  rw [h] at found
  exact List.count_pos_iff.mpr (List.mem_of_getElem? found)

theorem workersIn_pos {kind : Worker → Bool} {w : Worker} (now : p.workers[thread]? = some w)
    (h : kind w = true) : 0 < p.workersIn kind :=
  List.countP_pos_iff.mpr ⟨w, List.mem_of_getElem? now, h⟩

theorem exists_phase?_of_callsIn_pos {kind : Phase → Bool} (h : 0 < p.callsIn kind) :
    ∃ call phase, p.phase? call = some phase ∧ kind phase = true := by
  obtain ⟨c, member, is⟩ := List.mem_map.mp (List.count_pos_iff.mp h)
  obtain ⟨call, made⟩ := List.mem_iff_getElem?.mp member
  exact ⟨call, c.phase, by rw [phase?, made, Option.map_some], is⟩

theorem callsIn_eq_zero {kind : Phase → Bool} (h : ∀ c ∈ p.calls, kind c.phase = false) :
    p.callsIn kind = 0 := by
  apply List.count_eq_zero.mpr
  intro member
  obtain ⟨c, made, is⟩ := List.mem_map.mp member
  have is : kind c.phase = true := is
  rw [h c made] at is
  cases is

theorem callsIn_mono {kind other : Phase → Bool} (p : Pool α)
    (h : ∀ phase, kind phase = true → other phase = true) : p.callsIn kind ≤ p.callsIn other := by
  unfold callsIn views List.count
  rw [List.countP_map, List.countP_map]
  apply List.countP_mono_left
  intro c _ is
  exact beq_iff_eq.mpr (h _ (beq_iff_eq.mp is))

theorem workersIn_mono {kind other : Worker → Bool} (p : Pool α)
    (h : ∀ w, kind w = true → other w = true) : p.workersIn kind ≤ p.workersIn other :=
  List.countP_mono_left fun w _ => h w

theorem callsIn_invoke (p : Pool α) (c : Call α) (kind : Phase → Bool) :
    ({ p with calls := p.calls ++ [c] } : Pool α).callsIn kind =
      p.callsIn kind + (kind c.phase).toNat := by
  cases h : kind c.phase <;> simp [callsIn, views, h]

theorem tally_invoke (p : Pool α) (c : Call α) (kind : Phase → Bool) (trade : Worker → Bool) :
    ({ p with calls := p.calls ++ [c] } : Pool α).tally kind trade =
      p.tally kind trade + (kind c.phase).toNat := by
  unfold tally
  rw [callsIn_invoke]
  exact Nat.add_right_comm ..

section Moves

variable {β : Type} {old new : Phase} {kind : Phase → Bool} {view : Op → Phase → β}

theorem CallMove.workers (moves : CallMove p call wakes old new q) : q.workers = p.workers := by
  cases moves <;> rfl

theorem CallMove.workersIn (moves : CallMove p call wakes old new q) (trade : Worker → Bool) :
    (q.setPhase call new).workersIn trade = p.workersIn trade :=
  congrArg (List.countP trade) moves.workers

theorem CallMove.plan_eq (moves : CallMove p call wakes old new q) : q.plan = p.plan := by
  cases moves <;> rfl

theorem CallMove.views (moves : CallMove p call wakes old new q)
    (blind : old.wakes = true → Blind view) : q.views view = p.views view := by
  cases moves with
  | reject | lose => exact views_setCell ..
  | passOn woke =>
    have same := views_wakeOne (blind rfl) woke
    exact (views_setCell ..).trans same
  | wakeSubmitters => exact views_wakeSubmitters (blind rfl) p
  | _ => rfl

/-- A call keeps its operation. -/
theorem CallMove.views_setPhase {c : Call α} (moves : CallMove p call wakes c.phase new q)
    (now : p.calls[call]? = some c) (blind : c.phase.wakes = true → Blind view) :
    (q.setPhase call new).views view = (p.views view).set call (view c.op new) := by
  have ops : q.views (fun op _ => op) = p.views fun op _ => op := moves.views fun _ _ _ => rfl
  have kept : (q.views fun op _ => op)[call]? = some c.op := by rw [ops, views_getElem? now]
  unfold Pool.views at kept
  rw [List.getElem?_map] at kept
  obtain ⟨d, found, same⟩ := Option.map_eq_some_iff.mp kept
  have same : d.op = c.op := same
  rw [Pool.views_setPhase found, moves.views blind, same]

theorem CallMove.count_views {c : Call α} {look : Op → Phase → Bool}
    (moves : CallMove p call wakes c.phase new q) (made : p.calls[call]? = some c)
    (blind : c.phase.wakes = true → Blind look) :
    ((q.setPhase call new).views look).count true + (look c.op c.phase).toNat =
      (p.views look).count true + (look c.op new).toNat := by
  rw [moves.views_setPhase made blind]
  exact count_true_set (views_getElem? made look) _

theorem CallMove.callsIn (moves : CallMove p call wakes old new q) (now : p.phase? call = some old)
    (blind : old.wakes = true → Blind fun _ => kind) :
    (q.setPhase call new).callsIn kind + (kind old).toNat = p.callsIn kind + (kind new).toNat := by
  obtain ⟨c, made, rfl⟩ := Option.map_eq_some_iff.mp now
  exact moves.count_views made blind

theorem CallMove.tally (moves : CallMove p call wakes old new q) (trade : Worker → Bool)
    (now : p.phase? call = some old) (blind : old.wakes = true → Blind fun _ => kind) :
    (q.setPhase call new).tally kind trade + (kind old).toNat =
      p.tally kind trade + (kind new).toNat := by
  have calls := moves.callsIn now blind
  have workers := moves.workersIn trade
  unfold Pool.tally
  omega

theorem ThreadMove.views_setPhase {granted : Bool} {c : Call α}
    (moves : ThreadMove p granted old new q) (now : p.calls[call]? = some c) :
    (q.setPhase call new).views view = (p.views view).set call (view c.op new) := by
  cases moves <;> exact Pool.views_setPhase now ..

theorem ThreadMove.workersIn {granted : Bool} (moves : ThreadMove p granted old new q)
    (trade : Worker → Bool) :
    q.workersIn trade = p.workersIn trade + (new.hired.any trade).toNat := by
  cases moves with
  | @hire slot => cases h : trade { slot } <;> simp [Pool.workersIn, Phase.hired, h]
  | _ => rfl

theorem ThreadMove.count_views {granted : Bool} {c : Call α}
    (moves : ThreadMove p granted c.phase new q) (made : p.calls[call]? = some c)
    (look : Op → Phase → Bool) :
    ((q.setPhase call new).views look).count true + (look c.op c.phase).toNat =
      (p.views look).count true + (look c.op new).toNat := by
  rw [moves.views_setPhase made]
  exact count_true_set (views_getElem? made look) _

theorem ThreadMove.callsIn {granted : Bool} (moves : ThreadMove p granted old new q)
    (now : p.phase? call = some old) (kind : Phase → Bool) :
    (q.setPhase call new).callsIn kind + (kind old).toNat = p.callsIn kind + (kind new).toNat := by
  obtain ⟨c, made, rfl⟩ := Option.map_eq_some_iff.mp now
  exact moves.count_views made fun _ => kind

/-- A call that gets a thread hands its worker over to the thread. -/
theorem ThreadMove.tally {granted : Bool} (moves : ThreadMove p granted old new q)
    (kind : Phase → Bool) (trade : Worker → Bool) (now : p.phase? call = some old) :
    (q.setPhase call new).tally kind trade + (kind old).toNat =
      p.tally kind trade + (kind new).toNat + (new.hired.any trade).toNat := by
  have calls := moves.callsIn now kind
  have workers := moves.workersIn trade
  unfold Pool.tally
  change _ + q.workersIn trade + _ = _
  omega

end Moves

section Moves

variable {old new : WorkerPhase}

theorem WorkerMove.workers (moves : WorkerMove p slot wakes old new q) : q.workers = p.workers := by
  cases moves <;> rfl

theorem WorkerMove.plan_eq (moves : WorkerMove p slot wakes old new q) : q.plan = p.plan := by
  cases moves <;> rfl

theorem WorkerMove.views {β : Type} {view : Op → Phase → β}
    (moves : WorkerMove p slot wakes old new q) (blind : old.wakes = true → Blind view) :
    q.views view = p.views view := by
  cases moves with
  | park opened woke | leave woke =>
    have same := views_wakeOne (blind rfl) woke
    exact same
  | giveSlot drained =>
    have same := views_putSlot p slot view
    rw [drained] at same
    exact same
  | _ => rfl

theorem workersIn_setWorker (p : Pool α) (new : WorkerPhase) (trade : Worker → Bool)
    (now : p.workers[thread]? = some ⟨slot, old⟩) :
    (p.setWorker thread new).workersIn trade + (trade ⟨slot, old⟩).toNat =
      p.workersIn trade + (trade ⟨slot, new⟩).toNat :=
  countP_modify _ now

theorem WorkerMove.workersIn_trade (moves : WorkerMove p slot wakes old new q) (trade : Worker → Bool)
    (now : p.workers[thread]? = some ⟨slot, old⟩) :
    (q.setWorker thread new).workersIn trade + (trade ⟨slot, old⟩).toNat =
      p.workersIn trade + (trade ⟨slot, new⟩).toNat := by
  have same : q.workersIn trade = p.workersIn trade := congrArg (List.countP trade) moves.workers
  rw [← same]
  exact workersIn_setWorker q new trade (moves.workers ▸ now)

theorem WorkerMove.workersIn (moves : WorkerMove p slot wakes old new q) (kind : WorkerPhase → Bool)
    (now : p.workers[thread]? = some ⟨slot, old⟩) :
    (q.setWorker thread new).workersIn (kind ·.phase) + (kind old).toNat =
      p.workersIn (kind ·.phase) + (kind new).toNat :=
  moves.workersIn_trade (kind ·.phase) now

theorem workersIn_finish {task : Nat} (kind : WorkerPhase → Bool) (outcome : Outcome α)
    (now : p.workers[thread]? = some ⟨slot, .executing task⟩) :
    ((p.setCell task outcome.cell).setWorker thread outcome.aftermath).workersIn (kind ·.phase) +
        (kind (.executing task)).toNat =
      p.workersIn (kind ·.phase) + (kind outcome.aftermath).toNat :=
  workersIn_setWorker (p.setCell task outcome.cell) outcome.aftermath (kind ·.phase) now

theorem tally_setWorker (p : Pool α) (new : WorkerPhase) (kind : Phase → Bool)
    (trade : Worker → Bool) (now : p.workers[thread]? = some ⟨slot, old⟩) :
    (p.setWorker thread new).tally kind trade + (trade ⟨slot, old⟩).toNat =
      p.tally kind trade + (trade ⟨slot, new⟩).toNat := by
  have workers := workersIn_setWorker p new trade now
  unfold Pool.tally
  change p.callsIn kind + _ + _ = _
  omega

theorem WorkerMove.tally {kind : Phase → Bool} (moves : WorkerMove p slot wakes old new q)
    (trade : Worker → Bool) (now : p.workers[thread]? = some ⟨slot, old⟩)
    (blind : old.wakes = true → Blind fun _ => kind) :
    (q.setWorker thread new).tally kind trade + (trade ⟨slot, old⟩).toNat =
      p.tally kind trade + (trade ⟨slot, new⟩).toNat := by
  have same : q.tally kind trade = p.tally kind trade := by
    unfold Pool.tally callsIn Pool.workersIn
    rw [moves.views blind, moves.workers]
  rw [← same]
  exact tally_setWorker q new kind trade (moves.workers ▸ now)

end Moves

section Moves

variable {epoch : Nat} {old new : SweeperPhase}

theorem SweeperMove.calls (moves : SweeperMove p epoch old new q) : q.calls = p.calls := by
  cases moves <;> rfl

theorem SweeperMove.workers (moves : SweeperMove p epoch old new q) : q.workers = p.workers := by
  cases moves <;> rfl

theorem SweeperMove.workersIn (moves : SweeperMove p epoch old new q) (trade : Worker → Bool) :
    (q.setSweeper thread new).workersIn trade = p.workersIn trade :=
  congrArg (List.countP trade) moves.workers

theorem SweeperMove.tally (moves : SweeperMove p epoch old new q) (kind : Phase → Bool)
    (trade : Worker → Bool) : (q.setSweeper thread new).tally kind trade = p.tally kind trade := by
  cases moves <;> rfl

end Moves

theorem tally_rouse {kind : Phase → Bool} (blind : Blind fun _ => kind) (p : Pool α) (call : Nat)
    (trade : Worker → Bool) : (p.rouse call).tally kind trade = p.tally kind trade := by
  rw [tally, callsIn, views_rouse blind]
  rfl

theorem tally_setCell (p : Pool α) (call : Nat) (cell : Cell α) (kind : Phase → Bool)
    (trade : Worker → Bool) : (p.setCell call cell).tally kind trade = p.tally kind trade := by
  rw [tally, callsIn, views_setCell]
  rfl

theorem tally_finish {task : Nat} (kind : Phase → Bool) (trade : Worker → Bool) (outcome : Outcome α)
    (now : p.workers[thread]? = some ⟨slot, .executing task⟩) :
    ((p.setCell task outcome.cell).setWorker thread outcome.aftermath).tally kind trade +
        (trade ⟨slot, .executing task⟩).toNat =
      p.tally kind trade + (trade ⟨slot, outcome.aftermath⟩).toNat := by
  have tally := tally_setWorker (p.setCell task outcome.cell) outcome.aftermath kind trade now
  rwa [tally_setCell] at tally

/-- A step that no call takes leaves the calls of a kind alone, if it does not matter to the kind
whether a call waits, and no call begins with it. -/
theorem Move.count_views_of_others {label : Label α} {look : Op → Phase → Bool} (moves : p.Move label q)
    (others : label.caller? = none) (blind : Blind look)
    (first : ∀ op : Op, look op op.firstPhase = false) :
    (q.views look).count true = (p.views look).count true := by
  cases moves with
  | pass | stirSweeper => rfl
  | invoke => simp [views, first]
  | call | thread => cases others
  | stir => exact congrArg (List.count true) (views_rouse blind ..)
  | worker now moves => exact congrArg (List.count true) (moves.views fun _ => blind)
  | @finish thread outcome slot task now =>
    exact congrArg (List.count true) (views_setCell p task outcome.cell look)
  | sweeper now moves =>
    exact congrArg (fun calls : List (Call α) => (calls.map fun c => look c.op c.phase).count true)
      moves.calls

theorem Move.callsIn_of_others {label : Label α} {kind : Phase → Bool} (moves : p.Move label q)
    (others : label.caller? = none) (blind : Blind fun _ => kind)
    (first : ∀ op : Op, kind op.firstPhase = false) : q.callsIn kind = p.callsIn kind :=
  moves.count_views_of_others others blind first

theorem Move.plan_eq {label : Label α} (moves : p.Move label q) : q.plan = p.plan := by
  cases moves with
  | call now moves => exact moves.plan_eq
  | thread now moves => cases moves <;> rfl
  | worker now moves => exact moves.plan_eq
  | sweeper now moves => cases moves <;> rfl
  | _ => rfl

theorem Reachable.plan_eq {plan : Plan} (reached : Reachable plan p) : p.plan = plan :=
  reached.induction (P := fun p => p.plan = plan) (fun _ => rfl) fun _ eq moves =>
    moves.plan_eq.trans eq

end Pool
end WorkerPool
