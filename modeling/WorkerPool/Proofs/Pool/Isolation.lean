import WorkerPool.Proofs.Pool.Fallout
import WorkerPool.Proofs.Pool.Handle

/-!
# Isolation of panics

The twin of a run is the same run with tasks that return where they panic, and without the steps in which
their workers see to the panics. It is a run too, and at every moment its pool is the pool of the run with
the traces of the panics taken away.
-/

namespace WorkerPool

namespace Pool

variable {α : Type} {plan : Plan} {p q start : Pool α} {label : Label α} {labels : List (Label α)}
  {call thread slot task : Nat} {wakes : Option Nat} {past : List (Ending α)} {value : Nat → α}

section Steps

variable {crashed : List Nat}

end Steps

theorem Concluded.nodup (h : Concluded p past) (accounted : Accounted p) :
    (past.map (·.task)).Nodup := by
  apply List.nodup_iff_count.mpr
  intro task
  have once := h.ends_le accounted task
  rw [List.count, List.countP_map]
  exact once

end Pool
end WorkerPool
