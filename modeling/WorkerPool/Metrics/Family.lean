import WorkerPool.Decimal.Notation

/-!
Families of metrics and their text form: a line of help, a line of type and a line per sample. A
histogram tells how many observed values lie at or below each of some bounds, how many there are, and
their sum.
-/

namespace WorkerPool.Metrics

structure Histogram where
  /-- Ascending bounds, each with the number of values that lie at or below it and above the
  bounds before it. -/
  buckets : List (Float × UInt64)
  count : UInt64 := 0
  sum : Float := 0

namespace Histogram

def ofBounds (bounds : List Float) : Histogram := { buckets := bounds.map (·, 0) }

def insert (x : Float) : List (Float × UInt64) → List (Float × UInt64)
  | [] => []
  | (bound, n) :: rest => if x ≤ bound then (bound, n + 1) :: rest else (bound, n) :: insert x rest

def observe (h : Histogram) (x : Float) : Histogram :=
  { buckets := insert x h.buckets, count := h.count + 1, sum := h.sum + x }

/-- Each bound with the number of values at or below it, given `n` values below all of them. -/
def cumulative (n : UInt64) : List (Float × UInt64) → List (Float × UInt64)
  | [] => []
  | (bound, k) :: rest => (bound, n + k) :: cumulative (n + k) rest

end Histogram

inductive Kind
  | counter
  | gauge
  | histogram
  deriving DecidableEq, Repr

def Kind.name : Kind → String
  | .counter => "counter"
  | .gauge => "gauge"
  | .histogram => "histogram"

abbrev Labels := List (String × String)

inductive Sample
  | single (value : Float)
  | spread (values : Histogram)

structure Family where
  name : String
  help : String
  kind : Kind
  labels : Labels
  sample : Sample

def escapeHelp (s : String) : String :=
  String.ofList <| s.toList.flatMap fun c =>
    if c = '\\' then ['\\', '\\'] else if c = '\n' then ['\\', 'n'] else [c]

def escapeLabel (s : String) : String :=
  String.ofList <| s.toList.flatMap fun c =>
    if c = '\\' then ['\\', '\\'] else if c = '\n' then ['\\', 'n']
    else if c = '"' then ['\\', '"'] else [c]

def labelsText (labels : Labels) : String :=
  if labels.isEmpty then ""
  else
    let parts := labels.map fun (name, value) => name ++ "=\"" ++ escapeLabel value ++ "\""
    "\x7b" ++ String.intercalate "," parts ++ "\x7d"

def sampleLine (name : String) (labels : Labels) (value : Float) : String :=
  name ++ labelsText labels ++ " " ++ Decimal.Notation.metric.text value

def Histogram.lines (name : String) (labels : Labels) (h : Histogram) : List String :=
  let bucket (bound : String) (n : UInt64) : String :=
    sampleLine (name ++ "_bucket") (labels ++ [("le", bound)]) n.toFloat
  (cumulative 0 h.buckets).map (fun (bound, n) => bucket (Decimal.Notation.metric.text bound) n) ++
    [bucket "+Inf" h.count, sampleLine (name ++ "_sum") labels h.sum,
      sampleLine (name ++ "_count") labels h.count.toFloat]

def Family.lines (f : Family) : List String :=
  ["# HELP " ++ f.name ++ " " ++ escapeHelp f.help, "# TYPE " ++ f.name ++ " " ++ f.kind.name] ++
    match f.sample with
    | .single value => [sampleLine f.name f.labels value]
    | .spread values => values.lines f.name f.labels

/-- The text form of families, if each of them has a name. -/
def exposition? (families : List Family) : Option (List String) :=
  if families.any (·.name.isEmpty) then none else some (families.flatMap Family.lines)

end WorkerPool.Metrics
