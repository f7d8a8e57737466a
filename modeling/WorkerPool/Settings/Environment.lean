import WorkerPool.Decimal.Whole
import WorkerPool.Settings.Error
import WorkerPool.Duration

/-!
Settings given by environment variables.
-/

namespace WorkerPool

/-- The value of each variable that is set to a text. -/
abbrev Environment := String → Option String

namespace Environment

def ofList (entries : List (String × String)) : Environment := fun key => entries.lookup key

def getD (env : Environment) (key fallback : String) : String := (env key).getD fallback

/-- The value of a variable that is set and not empty. -/
def nonempty? (env : Environment) (key : String) : Option String :=
  (env key).filter fun value => !value.isEmpty

/-- A count, or the default if the variable is not set or empty. -/
def count (env : Environment) (key : String) (fallback : Nat) : Except SettingsError Nat :=
  match env.nonempty? key with
  | none => .ok fallback
  | some value =>
    (Decimal.readCount value.toList).mapError fun e => .parse key value e.message

/-- A duration, spelt by the default if the variable is not set. -/
def duration (env : Environment) (key fallback : String) :
    Except SettingsError (Option Duration) :=
  let value := env.getD key fallback
  (Duration.parse value).mapError fun e => .parse key value e.message

end Environment
end WorkerPool
