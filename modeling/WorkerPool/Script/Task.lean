import WorkerPool.Pool.Call

/-!
Tasks written down as lists of actions.
-/

namespace WorkerPool.Script

inductive Action (α : Type)
  /-- Waits until a gate is open. -/
  | await (gate : String)
  /-- Waits for a length of time. -/
  | sleep (length : Duration)
  | panic (payload : Payload)
  /-- Sets the value to be returned. -/
  | give (value : α)
  /-- Submits another task to the pool. -/
  | submit (actions : List (Action α))
  | release
  | restart

abbrev Task (α : Type) := List (Action α)

mutual

/-- Number of actions, with those of tasks inside. -/
def Action.size {α : Type} : Action α → Nat
  | .submit actions => sizes actions + 1
  | _ => 1

def sizes {α : Type} : List (Action α) → Nat
  | [] => 0
  | a :: rest => a.size + sizes rest

end

inductive Note
  | answered (answer : Answer)
  | released
  deriving DecidableEq, Repr

structure Job (α : Type) where
  /-- The call that submits it. -/
  call : Nat
  rest : Task α
  value : Option α := none
  /-- A call made by the task that it has to see the answer of. -/
  awaited : Option Nat := none
  /-- The moment up to which the task sleeps. -/
  alarm : Option Nat := none

end WorkerPool.Script
