import WorkerPool.Proofs.Pool.Census

/-!
# The way of one call

A move takes one call from a phase to the next, and it may wake others. Seen from a given call there
is not more to it: `Move.role?` says that the call stays where it is, or wakes, or makes the move.
-/

namespace WorkerPool.Pool

variable {α : Type} {p q : Pool α} {label : Label α} {op : Op} {call mover thread slot : Nat}
  {wakes : Option Nat} {phase : Phase}

/-- The operation of a call and how far it has come. -/
def role? (p : Pool α) (call : Nat) : Option (Op × Phase) := (p.views Prod.mk)[call]?

/-- What becomes of a call in a move. -/
inductive PhaseMove (p : Pool α) (call : Nat) (q : Pool α) : Label α → Phase → Phase → Prop
  | stay {label : Label α} {phase : Phase} (others : label.caller? ≠ some call) :
      PhaseMove p call q label phase phase
  | wake {label : Label α} {since : Nat} (others : label.caller? ≠ some call) :
      PhaseMove p call q label (.waiting since) (.acquiring (some since))
  | call {wakes : Option Nat} {old new : Phase} {r : Pool α} (moves : CallMove p call wakes old new r)
      (result : q = r.setPhase call new) : PhaseMove p call q (.call call wakes) old new
  | thread {granted : Bool} {old new : Phase} {r : Pool α} (moves : ThreadMove p granted old new r)
      (result : q = r.setPhase call new) : PhaseMove p call q (.thread call granted) old new

theorem phase?_eq (p : Pool α) (call : Nat) : p.phase? call = (p.role? call).map (·.2) := by
  simp [phase?, role?, views, Function.comp_def]

theorem role?_of_getElem? {c : Call α} (made : p.calls[call]? = some c) :
    p.role? call = some (c.op, c.phase) := views_getElem? made Prod.mk

theorem exists_role? (now : p.phase? call = some phase) : ∃ op, p.role? call = some (op, phase) := by
  obtain ⟨c, made, rfl⟩ := Option.map_eq_some_iff.mp now
  exact ⟨c.op, role?_of_getElem? made⟩

/-- Whether a call is where it was, unless it has been woken. -/
def Keeps (p q : Pool α) (call : Nat) : Prop :=
  q.role? call = p.role? call ∨ q.role? call = (p.role? call).map fun (op, phase) => (op, phase.rouse)

theorem Keeps.of_views (same : q.views Prod.mk = p.views Prod.mk) : Keeps p q call :=
  .inl (congrArg (·[call]?) same)

theorem role?_setPhase_self (now : p.role? call = some (op, phase)) (new : Phase) :
    (p.setPhase call new).role? call = some (op, new) := by
  simp only [role?, views, List.getElem?_map, setPhase, List.getElem?_modify_eq] at now ⊢
  obtain ⟨c, made, eq⟩ := Option.map_eq_some_iff.mp now
  rw [made, ← (Prod.mk.inj eq).1]
  rfl

theorem phase?_setPhase_self (now : p.phase? call = some phase) (new : Phase) :
    (p.setPhase call new).phase? call = some new := by
  obtain ⟨op, role⟩ := exists_role? now
  rw [phase?_eq, role?_setPhase_self role]
  rfl

theorem role?_setPhase_of_ne (h : mover ≠ call) (new : Phase) :
    (p.setPhase mover new).role? call = p.role? call := by
  simp [role?, views, setPhase, h]

theorem phase?_setPhase_of_ne (h : mover ≠ call) (new : Phase) :
    (p.setPhase mover new).phase? call = p.phase? call := by
  rw [phase?_eq, role?_setPhase_of_ne h, phase?_eq]

theorem keeps_rouse (p : Pool α) (other call : Nat) : Keeps p (p.rouse other) call := by
  by_cases same : other = call
  · right
    simp [role?, views, rouse, same, Option.map_map, Function.comp_def]
  · left
    simp [role?, views, rouse, same]

theorem keeps_wakeOne (woke : p.wakeOne wakes = some q) (call : Nat) : Keeps p q call := by
  rcases wakeOne_cases woke with ⟨-, rfl⟩ | ⟨other, -, rfl⟩
  · exact .inl rfl
  · exact keeps_rouse p other call

theorem CallMove.keeps {old new : Phase} (moves : CallMove p mover wakes old new q) (call : Nat) :
    Keeps p q call := by
  cases moves with
  | reject | lose => exact .of_views (views_setCell ..)
  | passOn woke =>
    unfold Keeps role?
    rw [views_setCell]
    exact keeps_wakeOne woke call
  | wakeSubmitters =>
    right
    simp [role?, Pool.views, Pool.wakeSubmitters, Function.comp_def]
  | _ => exact .inl rfl

theorem ThreadMove.keeps {granted : Bool} {old new : Phase} (moves : ThreadMove p granted old new q)
    (call : Nat) : Keeps p q call := by
  cases moves <;> exact .inl rfl

theorem WorkerMove.keeps {old new : WorkerPhase} (moves : WorkerMove p slot wakes old new q)
    (call : Nat) : Keeps p q call := by
  cases moves with
  | park opened woke | leave woke => exact keeps_wakeOne woke call
  | giveSlot drained => exact .of_views (drained ▸ views_putSlot p slot Prod.mk)
  | _ => exact .inl rfl

theorem Keeps.phaseMove (keeps : Keeps p q call) (others : label.caller? ≠ some call)
    (now : p.role? call = some (op, phase)) :
    ∃ new, q.role? call = some (op, new) ∧ PhaseMove p call q label phase new := by
  rcases keeps with same | roused
  · exact ⟨phase, same.trans now, .stay others⟩
  · rw [now] at roused
    cases phase with
    | waiting since => exact ⟨_, roused, .wake others⟩
    | _ => exact ⟨_, roused, .stay others⟩

theorem Keeps.setPhase_self (keeps : Keeps p q call) (now : p.role? call = some (op, phase))
    (new : Phase) : (q.setPhase call new).role? call = some (op, new) := by
  rcases keeps with same | roused
  · exact role?_setPhase_self (same.trans now) new
  · rw [now] at roused
    exact role?_setPhase_self roused new

theorem Keeps.setPhase_of_ne (keeps : Keeps p q call) (h : mover ≠ call) (new : Phase) :
    Keeps p (q.setPhase mover new) call := by
  unfold Keeps
  rw [role?_setPhase_of_ne h]
  exact keeps

theorem Keeps.absent (keeps : Keeps p q call) (h : p.role? call = none) : q.role? call = none := by
  rcases keeps with same | roused
  · exact same.trans h
  · rw [roused, h]
    rfl

/-- A call keeps its place in a move, or is new, or makes the move itself. -/
theorem Move.keeps_or (moves : p.Move label q) (call : Nat) :
    (label.caller? ≠ some call ∧ Keeps p q call) ∨
      (∃ op, label = .invoke op ∧ p.role? call = none ∧ q.role? call = some (op, op.firstPhase)) ∨
      ∃ op old new, p.role? call = some (op, old) ∧ q.role? call = some (op, new) ∧
        PhaseMove p call q label old new := by
  cases moves with
  | pass | stirSweeper => exact .inl ⟨nofun, .inl rfl⟩
  | @invoke op =>
    have views : ({ p with calls := p.calls ++ [{ op, phase := op.firstPhase }] } : Pool α).views
        Prod.mk = p.views Prod.mk ++ [(op, op.firstPhase)] := List.map_append
    unfold Keeps role?
    rw [views, List.getElem?_append]
    split
    · exact .inl ⟨nofun, .inl rfl⟩
    · rename_i outside
      rw [List.getElem?_eq_none (Nat.le_of_not_lt outside)]
      cases call - (p.views Prod.mk).length with
      | zero => exact .inr (.inl ⟨op, rfl, rfl, rfl⟩)
      | succ => exact .inl ⟨nofun, .inl rfl⟩
  | @call mover wakes old new r here moves =>
    by_cases same : mover = call
    · subst same
      obtain ⟨op, role⟩ := exists_role? here
      exact .inr (.inr ⟨op, old, new, role, (moves.keeps mover).setPhase_self role new, .call moves rfl⟩)
    · exact .inl ⟨fun h => same (Option.some.inj h), (moves.keeps call).setPhase_of_ne same new⟩
  | @thread mover granted old new r here moves =>
    by_cases same : mover = call
    · subst same
      obtain ⟨op, role⟩ := exists_role? here
      exact .inr (.inr ⟨op, old, new, role, (moves.keeps mover).setPhase_self role new, .thread moves rfl⟩)
    · exact .inl ⟨fun h => same (Option.some.inj h), (moves.keeps call).setPhase_of_ne same new⟩
  | @stir other => exact .inl ⟨nofun, keeps_rouse p other call⟩
  | worker here moves => exact .inl ⟨nofun, moves.keeps call⟩
  | @finish thread outcome slot task here =>
    have same := views_setCell p task outcome.cell Prod.mk
    exact .inl ⟨nofun, .of_views same⟩
  | sweeper here moves =>
    have same := congrArg (List.map fun c : Call α => (c.op, c.phase)) moves.calls
    exact .inl ⟨nofun, .of_views same⟩

theorem Move.role? (moves : p.Move label q) (now : p.role? call = some (op, phase)) :
    ∃ new, q.role? call = some (op, new) ∧ PhaseMove p call q label phase new := by
  rcases moves.keeps_or call with ⟨others, kept⟩ | ⟨_, _, absent, _⟩ | ⟨_, old, new, before, after, way⟩
  · exact kept.phaseMove others now
  · cases absent.symm.trans now
  · cases before.symm.trans now
    exact ⟨new, after, way⟩

/-- A call that was not there before the move is new. -/
theorem Move.firstPhase (moves : p.Move label q) (absent : p.role? call = none)
    (now : q.role? call = some (op, phase)) : label = .invoke op ∧ phase = op.firstPhase := by
  rcases moves.keeps_or call with ⟨-, kept⟩ | ⟨_, invoked, _, here⟩ | ⟨_, _, _, before, _, _⟩
  · cases (kept.absent absent).symm.trans now
  · cases here.symm.trans now
    exact ⟨invoked, rfl⟩
  · cases absent.symm.trans before

theorem Move.role?_cases (moves : p.Move label q) (now : q.role? call = some (op, phase)) :
    (label = .invoke op ∧ phase = op.firstPhase) ∨
      ∃ old, p.role? call = some (op, old) ∧ PhaseMove p call q label old phase := by
  cases before : p.role? call with
  | none => exact .inl (moves.firstPhase before now)
  | some role =>
    obtain ⟨_, old⟩ := role
    obtain ⟨new, after, way⟩ := moves.role? before
    cases after.symm.trans now
    exact .inr ⟨old, rfl, way⟩

theorem Move.phase? (moves : p.Move label q) (now : p.phase? call = some phase) :
    ∃ new, q.phase? call = some new ∧ PhaseMove p call q label phase new := by
  obtain ⟨op, role⟩ := exists_role? now
  obtain ⟨new, after, way⟩ := moves.role? role
  refine ⟨new, ?_, way⟩
  rw [phase?_eq, after]
  rfl

def TurnedAway (p : Pool α) (call : Nat) : Prop :=
  p.phase? call = some .turnedAway ∨ p.phase? call = some (.returned (.failed .closed))

/-- A call that has found the pool closed returns and says so, whatever becomes of the pool. -/
theorem TurnedAway.move (h : TurnedAway p call) (moves : p.Move label q) : TurnedAway q call := by
  rcases h with now | now
  · obtain ⟨new, after, way⟩ := moves.phase? now
    cases way with
    | stay => exact .inl after
    | call moves =>
      cases moves
      exact .inr after
    | thread moves => cases moves
  · obtain ⟨new, after, way⟩ := moves.phase? now
    cases way with
    | stay => exact .inr after
    | call moves => cases moves
    | thread moves => cases moves

theorem TurnedAway.leads (h : TurnedAway p call) (led : p.Leads q) : TurnedAway q call :=
  led.induction (P := (TurnedAway · call)) h fun _ h moves => h.move moves

end WorkerPool.Pool
