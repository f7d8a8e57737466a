import WorkerPool.Log.Event
import WorkerPool.Metrics.Family
import WorkerPool.Metrics.Meters

/-!
All metrics of a pool, with further ones that are registered beside them, as families in the
order of their names. Each sample carries the name of the pool.
-/

namespace WorkerPool.Metrics

def waitBounds : List Float := [0.0001, 0.0005, 0.001, 0.005, 0.01, 0.05, 0.1, 0.5, 1, 5]

/-- A metric registered beside those of the pool: the name and the help under which it is
registered, and the name under which its values come, which should be the same. -/
structure Collector where
  name : String
  help : String
  familyName : String := name
  value : UInt64
  deriving DecidableEq, Repr

structure Registry where
  pool : String
  meters : Meters := {}
  waits : Histogram := .ofBounds waitBounds
  collectors : List Collector := []

/-- A letter, an underscore or a colon; after the first character digits as well. -/
def isMetricName (name : String) : Bool :=
  let isStart (c : Char) : Bool := c.isAlpha || c = '_' || c = ':'
  match name.toList with
  | [] => false
  | c :: rest => isStart c && rest.all fun c => isStart c || c.isDigit

namespace Registry

def waitsName : String := "tidepool_submit_wait_seconds"

def labels (r : Registry) : Labels := [("pool", r.pool)]

def names (r : Registry) : List String :=
  waitsName :: Gauge.all.map (·.name) ++ Counter.all.map (·.name) ++ r.collectors.map (·.name)

/-- Registers a metric with a proper name that is still free, and with a help text. -/
def register? (r : Registry) (c : Collector) : Option Registry :=
  if isMetricName c.name && !c.help.isEmpty && !r.names.contains c.name then
    some { r with collectors := r.collectors ++ [c] }
  else none

def gaugeFamily (r : Registry) (g : Gauge) : Family :=
  { name := g.name, help := g.help, kind := .gauge, labels := r.labels
    sample := .single (r.meters.gauge g).toFloat }

def counterFamily (r : Registry) (c : Counter) : Family :=
  { name := c.name, help := c.help, kind := .counter, labels := r.labels
    sample := .single (r.meters.counter c).toFloat }

def collectorFamily (r : Registry) (c : Collector) : Family :=
  { name := c.familyName, help := c.help, kind := .counter, labels := r.labels
    sample := .single c.value.toFloat }

def waitsFamily (r : Registry) : Family :=
  { name := waitsName, help := "Time spent blocked waiting for a worker", kind := .histogram
    labels := r.labels, sample := .spread r.waits }

def families (r : Registry) : List Family :=
  (r.waitsFamily :: Gauge.all.map r.gaugeFamily ++ Counter.all.map r.counterFamily ++
    r.collectors.map r.collectorFamily).mergeSort fun a b => a.name ≤ b.name

def exportFailure : Log.Event :=
  .of .error "failed to encode pool metrics" [("error", .shown "metric family has no name")]

/-- The lines of the text form, none if it cannot be made, and what the log is told. -/
def exportLines (r : Registry) : List String × List Log.Event :=
  match exposition? r.families with
  | some lines => (lines, [])
  | none => ([], [exportFailure])

end Registry
end WorkerPool.Metrics
