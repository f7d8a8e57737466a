import WorkerPool.Pool.Plan
import WorkerPool.Settings.Environment
import WorkerPool.Settings.Table

/-!
Settings of a pool, from the environment or from a file.
-/

namespace WorkerPool

structure PoolSettings where
  capacity : Nat
  expiry : Duration
  name : String := defaultName
  deriving DecidableEq, Repr

namespace PoolSettings

def plan (s : PoolSettings) : Plan :=
  { capacity := s.capacity, expiry := s.expiry, name := s.name }

/-- The capacity that the environment asks for; zero asks for one worker per processor. -/
def requestedCapacity (env : Environment) : Except SettingsError Nat := env.count "POOL_CAP" 0

def capacityOf (env : Environment) (processors : Nat) : Except SettingsError Nat := do
  let requested ← requestedCapacity env
  let n := if requested = 0 then processors else requested
  if n = 0 then throw (.invalid "POOL_CAP" "capacity cannot be zero") else pure n

def expiryOf (env : Environment) : Except SettingsError Duration := do
  match ← env.duration "POOL_EXPIRE" "1s" with
  | some expiry => pure expiry
  | none => throw (.invalid "POOL_EXPIRE" "expiry must be positive")

def ofEnvironment (env : Environment) (processors : Nat) : Except SettingsError PoolSettings := do
  return { capacity := ← capacityOf env processors
           expiry := ← expiryOf env
           name := env.getD "POOL_NAME" defaultName }

def required {α : Type} (key : String) : Option α → Except SettingsError α
  | some value => .ok value
  | none => .error (.missing key)

def positiveCapacity (cap : Int) : Except SettingsError Nat :=
  if 0 < cap then .ok cap.toNat
  else .error (.invalid "pool.cap" ("capacity must be positive, got " ++ toString cap))

def positiveExpiry : ExpiryText → Except SettingsError Duration
  | .seconds n =>
    if 0 < n then .ok (.ofSeconds n.toNat)
    else .error (.invalid "pool.expire" ("expiry must be positive, got " ++ toString n))
  | .text spelling =>
    match Duration.parse spelling with
    | .error e => .error (.parse "pool.expire" spelling e.message)
    | .ok none => .error (.invalid "pool.expire" "expiry must be positive")
    | .ok (some expiry) => .ok expiry

/-- Settings from the table of a file, which has to give the capacity and the expiry. -/
def ofTable (table : Option PoolTable) : Except SettingsError PoolSettings := do
  let table ← required "pool" table
  let cap ← required "pool.cap" table.cap
  let capacity ← positiveCapacity cap
  let expire ← required "pool.expire" table.expire
  let expiry ← positiveExpiry expire
  return { capacity, expiry, name := table.name.getD defaultName }

end PoolSettings
end WorkerPool
