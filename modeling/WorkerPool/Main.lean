import Std.Time.DateTime.Timestamp
import WorkerPool.Demo.Transcript
import WorkerPool.Log.Line
import WorkerPool.Settings.Files

/-!
The command line: takes the settings from the environment or from the file that it names, runs
the workload and writes what there is to say.
-/

namespace WorkerPool.Demo

def timeText : IO String := do
  let now ← Std.Time.Timestamp.now
  return Log.momentText now.toNanosecondsSinceUnixEpoch.val.toNat

/-- The error that the system reports by a number, which may come negated. -/
def fileErrorOf (number : UInt32) (message : String) : FileError :=
  match min number.toNat (4294967296 - number.toNat) with
  | 2 => .notFound
  | 13 => .permissionDenied
  | 20 => .notADirectory
  | 21 => .isADirectory
  | 36 => .nameTooLong
  | _ => .other message

def readEnvironment : IO Environment := do
  let names := ["TIDEPOOL_CONFIG", "POOL_CAP", "POOL_EXPIRE", "POOL_NAME", "LOG_LEVEL",
    "RUST_LOG", "LOG_FORMAT", "SERVICE_NAME", "DEMO_TASKS", "DEMO_TASK_TIME"]
  let mut found := []
  for name in names do
    if let some value ← IO.getEnv name then
      found := (name, value) :: found
  return Environment.ofList found

def processors : IO Nat := do
  try
    let lines ← IO.FS.lines "/proc/cpuinfo"
    return max 1 (lines.toList.countP fun line => line.startsWith "processor")
  catch _ => return 1

def readText (path : String) : IO (Except FileError String) := do
  try
    return textOfBytes (← IO.FS.readBinFile path)
  catch e =>
    return .error <| match e with
      | .noFileOrDirectory _ number message | .inappropriateType _ number message
      | .permissionDenied _ number message | .invalidArgument _ number message =>
        fileErrorOf number message
      | e => .other e.toString

end WorkerPool.Demo

open WorkerPool WorkerPool.Demo in
def main : IO UInt32 := do
  let env ← readEnvironment
  let content ← match fileName? env with
    | some path => readText path
    | none => pure (.error .notFound)
  let t := transcript env (← processors) fun _ => content
  let mut width := 0
  for output in t.outputs do
    match output with
    | .pass length => IO.sleep length.millis.toUInt32
    | .complaint text => IO.eprintln text
    | output =>
      width := (t.writer.map fun w => output.width w width).getD 0
      if let some line := output.line? t.writer (← timeText) width then
        IO.println line
  return if t.succeeded then 0 else 1
