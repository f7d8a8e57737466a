import WorkerPool.Log.Filter
import WorkerPool.Log.Line
import WorkerPool.Settings.Log

/-!
The log of a process: which events it lets through and what it writes of them. A process keeps
the first log that is installed.
-/

namespace WorkerPool.Log

structure Writer where
  filter : Filter
  format : LogFormat
  service : String
  deriving DecidableEq, Repr

namespace Writer

def filterWarning (filter : String) : String :=
  "Warning: Invalid log filter '" ++ filter ++ "', using tidepool=info"

/-- The log that settings ask for. A filter that cannot be read gives way to the fallback. -/
def ofSettings (s : LogSettings) : Writer :=
  { filter := (Filter.parse? s.filter).getD .fallback, format := s.format, service := s.service }

def warnings (s : LogSettings) : List String :=
  if (Filter.parse? s.filter).isNone then [filterWarning s.filter] else []

/-- The log in force after a log is asked for, and whether it is the one asked for. -/
def install (current : Option Writer) (s : LogSettings) : Bool × Option Writer :=
  match current with
  | some w => (false, some w)
  | none => (true, some (ofSettings s))

def line? (w : Writer) (time thread : String) (e : Event) : Option String :=
  if w.filter.passes e then
    some <| match w.format with
      | .json => jsonLine w.service time e
      | .text => time ++ " " ++ plainLine thread e
  else none

end Writer
end WorkerPool.Log
