import WorkerPool.Demo.Workload
import WorkerPool.Log.Writer
import WorkerPool.Settings.Load

/-!
All that a program says which loads its settings, runs a workload on a pool and reports.
-/

namespace WorkerPool.Demo

open Script (Stage drive)

def version : String := "0.1.0"

inductive Output
  /-- An event for the log, from a thread. -/
  | event (thread : String) (event : Log.Event)
  | line (text : String)
  /-- A line for those who look for errors. -/
  | complaint (text : String)
  /-- Time goes by. -/
  | pass (length : Duration)

structure Transcript where
  /-- The log that events go to. -/
  writer : Option Log.Writer := none
  outputs : List Output := []
  succeeded : Bool := true

namespace Output

def passes (writer : Log.Writer) : Output → Bool
  | .event _ e => writer.filter.passes e
  | _ => false

/-- Plain lines show all names of threads as wide as the widest so far. -/
def width (writer : Log.Writer) (before : Nat) (o : Output) : Nat :=
  match o with
  | .event thread _ => if o.passes writer then max before thread.utf8ByteSize else before
  | _ => before

def padded (width : Nat) (name : String) : String :=
  String.ofList (List.replicate (width - name.length) ' ') ++ name

def line? (writer : Option Log.Writer) (time : String) (width : Nat) : Output → Option String
  | .event thread e => writer.bind fun w => w.line? time (padded width thread) e
  | .line text => some text
  | .complaint _ | .pass _ => none

end Output

namespace Transcript

/-- All lines on standard output, with one time for all. -/
def lines (t : Transcript) (time : String) : List String :=
  let step (sofar : Nat × List String) (o : Output) : Nat × List String :=
    let width := (t.writer.map fun w => o.width w sofar.1).getD 0
    (width, sofar.2 ++ (o.line? t.writer time width).toList)
  (t.outputs.foldl step (0, [])).2

def complaints (t : Transcript) : List String :=
  t.outputs.filterMap fun
    | .complaint text => some text
    | _ => none

def say (t : Transcript) (outputs : List Output) : Transcript :=
  { t with outputs := t.outputs ++ outputs }

def fail (t : Transcript) (error : String) : Transcript :=
  { t.say [.complaint ("Error: " ++ error)] with succeeded := false }

end Transcript

def mainThread : String := "main"

def told (event : Log.Event) : Output := .event mainThread event

/-- What a pool has told the log since it had told `count` notices. -/
def noticesSince (count : Nat) (s : Stage Unit) : List Output :=
  let pool := s.pool
  (pool.notices.take (pool.notices.length - count)).reverse.map fun notice =>
    .event (notice.thread pool.plan mainThread) (notice.event pool.plan)

def fileName? (env : Environment) : Option String := env.nonempty? "TIDEPOOL_CONFIG"

def source (env : Environment) (processors : Nat) (read : String → Except FileError String) :
    Source :=
  match fileName? env with
  | some path => .file path (read path)
  | none => .environment processors

def report (w : Workload) (elapsed : Duration) (s : Stage Unit) : List Output :=
  [told (.of .info "workload finished"
      [("tasks", .int w.tasks), ("elapsed_ms", .int elapsed.millis)]),
    told (.of .info "pool stats" [("stats", .shown s.pool.stats.toJson.line)])] ++
  s.pool.registry.exportLines.1.map Output.line ++ [.line ""]

def workOn (w : Workload) (pool : Pool (Option Unit)) (t : Transcript) : Transcript :=
  let start : Stage Unit := { pool }
  let ended := w.run start
  let elapsed : Duration := ⟨ended.pool.clock - pool.clock⟩
  let call := ended.nextCall
  let released := drive (·.stepCall? call) 16 (ended.invoke .release)
  t.say <|
    noticesSince 0 ended ++ [.pass elapsed] ++ report w elapsed ended ++
      noticesSince ended.pool.notices.length released ++ [told (.of .info "Shutting down...")]

def transcript (env : Environment) (processors : Nat) (read : String → Except FileError String) :
    Transcript :=
  let source := source env processors read
  let t : Transcript := { outputs := (Settings.warnings env source).map Output.complaint }
  match Settings.ofSource env source with
  | .error e => t.fail e.text
  | .ok settings =>
    let t := { t with writer := (Log.Writer.install t.writer settings.log).2 }.say <|
      (Log.Writer.warnings settings.log).map Output.complaint ++
        told (.of .info ("Starting tidepool " ++ version ++ "...")) ::
          settings.summaryEvents.map told
    match Workload.ofEnvironment env with
    | .error e => t.fail (Text.quote e.message)
    | .ok w =>
      match Pool.build settings.pool.plan true with
      | .error e => t.fail e.message
      | .ok pool => workOn w pool t

end WorkerPool.Demo
