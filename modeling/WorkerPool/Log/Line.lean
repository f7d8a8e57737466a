import WorkerPool.Log.Event

/-!
Log lines. An event becomes one object on one line: its level, its message, the context that
ties lines together, and the rest of its fields as data. Its time is a date and a time of day, to the
microsecond.
-/

namespace WorkerPool.Log

/-- Year, month and day of a number of days after the first of January 1970. Years are counted
from the first of March, so that a leap day comes last, in cycles of 400. -/
def civilDate (days : Nat) : Nat × Nat × Nat :=
  let shifted := days + 719468
  let day := shifted % 146097
  let year := (day - day / 1460 + day / 36524 - day / 146096) / 365
  let day := day - (365 * year + year / 4 - year / 100)
  let month := (5 * day + 2) / 153
  let day := day - (153 * month + 2) / 5 + 1
  let year := shifted / 146097 * 400 + year
  if month < 10 then (year, month + 3, day) else (year + 1, month - 9, day)

def padded (width n : Nat) : String :=
  let digits := Nat.toDigits 10 n
  String.ofList (List.replicate (width - digits.length) '0' ++ digits)

def momentText (nanos : Nat) : String :=
  let seconds := nanos / 1000000000
  let (year, month, day) := civilDate (seconds / 86400)
  padded 4 year ++ "-" ++ padded 2 month ++ "-" ++ padded 2 day ++ "T" ++
    padded 2 (seconds / 3600 % 24) ++ ":" ++ padded 2 (seconds / 60 % 60) ++ ":" ++
    padded 2 (seconds % 60) ++ "." ++ padded 6 (nanos / 1000 % 1000000) ++ "Z"

def contextNames : List String := ["pool", "worker"]

/-- Levels as lines name them; the two lowest share a name. -/
def Level.name : Level → String
  | .trace | .debug => "debug"
  | .info => "info"
  | .warn => "warn"
  | .error => "error"

def Level.kind : Level → String
  | .error => "error"
  | _ => "app"

structure Entry where
  level : Level
  message : String
  context : Fields Value
  data : Fields Value
  deriving DecidableEq, Repr

namespace Entry

def ofEvent (service : String) (e : Event) : Entry :=
  { level := e.level
    message := e.message
    context := Fields.put "service" (.text service)
      (e.data.filter fun (name, _) => contextNames.contains name)
    data := e.data.without contextNames }

def objectOf (fields : Fields Value) : Json :=
  .object (fields.map fun (name, value) => (name, value.toJson))

/-- The entry as an object with its keys in order, with the time if there is one. -/
def toJson (time? : Option String) (e : Entry) : Json :=
  .object <|
    [("ctx", objectOf e.context), ("data", objectOf e.data), ("level", .text e.level.name),
      ("msg", .text e.message)] ++
    (time?.map fun time => ("ts", Json.text time)).toList ++
    [("type", .text e.level.kind)]

end Entry

def jsonLine (service time : String) (e : Event) : String :=
  ((Entry.ofEvent service e).toJson (some time)).line

def Level.label : Level → String
  | .trace => "TRACE"
  | .debug => "DEBUG"
  | .info => " INFO"
  | .warn => " WARN"
  | .error => "ERROR"

/-- Characters that could steer a terminal are shown by their numbers. -/
def guardChar (c : Char) : List Char :=
  let n := c.toNat
  if n = 0x1b ∨ n = 7 ∨ n = 8 ∨ n = 0xc ∨ n = 0x7f then
    ['\\', 'x', Json.hexDigit (n / 16), Json.hexDigit n]
  else if 0x80 ≤ n ∧ n ≤ 0x9f then ['\\', 'u', '\x7b'] ++ Text.hexNumber c ++ ['\x7d']
  else [c]

def plainField : String × Value → String
  | ("message", .text s) | ("message", .shown s) =>
    String.ofList (s.toList.flatMap guardChar)
  | ("message", value) => value.plain
  | (name, value) =>
    (if name.startsWith "r#" then (name.drop 2).toString else name) ++ "=" ++ value.plain

/-- The line for people: level, thread, target and the fields as recorded, without the time. -/
def plainLine (thread : String) (e : Event) : String :=
  let fields := e.fields.filter fun (name, _) => !name.startsWith "log."
  e.level.label ++ " " ++ thread ++ " " ++ e.target ++ ": " ++
    String.intercalate " " (fields.map plainField)

end WorkerPool.Log
