import WorkerPool.Log.Fields
import WorkerPool.Log.Json
import WorkerPool.Text.Visible

/-!
What happens is logged as an event: a level, a target and fields in the order of recording.
-/

namespace WorkerPool.Log

inductive Level
  | trace
  | debug
  | info
  | warn
  | error
  deriving DecidableEq, Repr

/-- Verbosity: the graver the level, the lower. -/
def Level.rank : Level → Nat
  | .error => 1
  | .warn => 2
  | .info => 3
  | .debug => 4
  | .trace => 5

inductive Value
  /-- A text recorded as such. -/
  | text (s : String)
  /-- Something recorded by the text that shows it. -/
  | shown (s : String)
  | int (n : Int)
  | number (n : Decimal.Number)
  | bool (b : Bool)
  deriving DecidableEq, Repr

namespace Value

def message? : Value → Option String
  | .text s | .shown s => some s
  | _ => none

def toJson : Value → Json
  | .text s | .shown s => .text s
  | .int n => .int n
  | .number n => .number n
  | .bool b => .bool b

def plain : Value → String
  | .text s => Text.quote s
  | .shown s => s
  | .int n => toString n
  | .number n => String.ofList (Decimal.Notation.plain.write n)
  | .bool b => toString b

end Value

structure Event where
  level : Level
  target : String := "tidepool"
  fields : List (String × Value) := []
  deriving DecidableEq, Repr

namespace Event

/-- Whether a recorded field is the message rather than data: it has the message's name and
holds a text. -/
def isMessage (field : String × Value) : Bool :=
  field.1 == "message" && field.2.message?.isSome

/-- The message recorded last, or the empty text. -/
def message (e : Event) : String :=
  ((e.fields.reverse.find? isMessage).bind (·.2.message?)).getD ""

def data (e : Event) : Fields Value := .ofList (e.fields.filter fun f => !isMessage f)

def of (level : Level) (message : String) (fields : List (String × Value) := []) : Event :=
  { level, fields := ("message", .text message) :: fields }

end Event
end WorkerPool.Log
