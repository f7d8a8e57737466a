import WorkerPool.Script.Stage

/-!
A crowd of submitters that load a pool at the same time. Each submits its tasks one after the
other, the next as soon as the one before has been taken.
-/

namespace WorkerPool.Script

structure Crowd where
  submitters : Nat
  /-- Tasks of each submitter. -/
  share : Nat
  /-- Tasks whose number is a multiple of this panic, unless it is zero. -/
  panicEvery : Nat
  deriving DecidableEq, Repr

structure Submitter where
  /-- The call under way. -/
  awaited : Option Nat := none
  /-- Numbers of the tasks not yet submitted. -/
  left : List Nat
  deriving DecidableEq, Repr

structure CrowdReport where
  /-- Submissions that were taken. -/
  accepted : Nat
  /-- Tasks in the order in which they began. -/
  order : List Nat
  /-- The largest number of tasks executed at once. -/
  peak : Nat
  /-- The pool when all tasks are over. -/
  loaded : Stats
  /-- The pool when it has been released after that and its workers are gone. -/
  released : Stats
  /-- The answer to one submission more. -/
  late : Option Answer

structure Throng where
  stage : Stage Unit
  submitters : List Submitter
  /-- Numbers of tasks by their calls. -/
  numbers : List (Nat × Nat) := []
  peak : Nat := 0

namespace Crowd

def submitter (c : Crowd) (index : Nat) : Submitter :=
  { left := (List.range c.share).map fun i => index * c.share + i }

def task (c : Crowd) (number : Nat) : Task Unit :=
  if c.panicEvery ≠ 0 ∧ number % c.panicEvery = 0 then [.panic (.text "planned")] else []

end Crowd

namespace Throng

def executing (s : Stage Unit) : Nat :=
  s.pool.workers.countP fun w => match w.phase with
    | .executing _ => true
    | _ => false

/-- The next submission of the first submitter that does not wait for one. -/
def submit? (crowd : Crowd) (t : Throng) : Option Throng :=
  t.submitters.zipIdx.findSome? fun (submitter, index) =>
    if submitter.awaited.all fun call => (t.stage.pool.answer? call).isSome then
      match submitter.left with
      | [] => none
      | number :: left =>
        let call := t.stage.nextCall
        some { t with
          stage := t.stage.enlist .submit (crowd.task number)
          submitters := t.submitters.set index { awaited := some call, left }
          numbers := (call, number) :: t.numbers }
    else none

def advance? (crowd : Crowd) (t : Throng) : Option Throng :=
  submit? crowd t <|> t.stage.advance?.map fun stage =>
    { t with stage, peak := max t.peak (executing stage) }

end Throng

def Crowd.report (crowd : Crowd) (plan : Plan) : Except PoolError CrowdReport := do
  let pool ← Pool.build plan true
  let size := crowd.submitters * crowd.share + crowd.submitters + 2
  let start : Throng :=
    { stage := { pool }, submitters := (List.range crowd.submitters).map crowd.submitter }
  let t := drive (Throng.advance? crowd) (64 * size * size) start
  let calls := t.numbers.map (·.1)
  let closed := (t.stage.invoke .release).settle
  let late := closed.nextCall
  let after := (closed.enlist .submit []).settle
  return {
    accepted := calls.countP fun call => t.stage.pool.answer? call = some .done
    order := t.stage.pool.begun.reverse.map fun (call, _) => (t.numbers.lookup call).getD 0
    peak := t.peak
    loaded := t.stage.pool.stats
    released := closed.pool.stats
    late := after.pool.answer? late }

end WorkerPool.Script
