/-!
What a panic carries, and what is done about the panic of a task.

What is carried is dropped where the panic has been caught, and a value whose destructor panics brings
down the thread that drops it.
-/

namespace WorkerPool

inductive Payload
  | text (message : String)
  /-- A value that is no text. -/
  | opaqueValue
  /-- A value that is no text and whose destructor panics. -/
  | volatile
  deriving DecidableEq, Repr

namespace Payload

def divisionByZero : Payload := .text "attempt to divide by zero"

def message : Payload → String
  | .text message => message
  | .opaqueValue | .volatile => "non-string panic payload"

def isVolatile : Payload → Bool
  | .volatile => true
  | _ => false

end Payload

inductive PanicHandler
  /-- Nothing is called; the panic is logged. -/
  | absent
  /-- A callback that returns. -/
  | returns
  /-- A callback that panics itself. -/
  | panics
  /-- A callback that panics with a value whose destructor panics. -/
  | volatile
  deriving DecidableEq, Repr

namespace PanicHandler

def isSet : PanicHandler → Bool
  | .absent => false
  | _ => true

def isVolatile : PanicHandler → Bool
  | .volatile => true
  | _ => false

end PanicHandler

end WorkerPool
