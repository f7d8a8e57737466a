import WorkerPool.Settings.Error
import WorkerPool.Toml.Document

/-!
The parts of a settings file: which keys its tables may hold, and values of which kind. Other
keys are passed over.
-/

namespace WorkerPool

open Toml (Node Entries)

inductive ExpiryText
  | seconds (n : Int)
  | text (spelling : String)
  deriving DecidableEq, Repr

structure PoolTable where
  cap : Option Int := none
  expire : Option ExpiryText := none
  name : Option String := none
  deriving DecidableEq, Repr

structure LogTable where
  level : Option String := none
  format : Option String := none
  service : Option String := none
  deriving DecidableEq, Repr

structure SettingsFile where
  pool : Option PoolTable := none
  log : Option LogTable := none
  deriving DecidableEq, Repr

namespace SettingsFile

def int? : Node → Option Int
  | .int n => some n
  | _ => none

def text? : Node → Option String
  | .text s => some s
  | _ => none

def expiry? : Node → Option ExpiryText
  | .int n => some (.seconds n)
  | .text s => some (.text s)
  | _ => none

/-- The value of an optional key; nothing if the key is there with a value of another kind. -/
def optional? {α : Type} (read : Node → Option α) (found : Option Node) : Option (Option α) :=
  match found with
  | none => some none
  | some node => (read node).map some

/-- What stands for each of three fields: by name in a table, by position in an array. A date
counts as a table with none of them. -/
def threeFields? (a b c : String) : Node → Option (Option Node × Option Node × Option Node)
  | .table _ entries => some (entries.lookup a, entries.lookup b, entries.lookup c)
  | .array (x :: y :: z :: _) => some (some x, some y, some z)
  | .tables earlier last =>
    match earlier.reverse ++ [last] with
    | x :: y :: z :: _ => some (some (.table .own x), some (.table .own y), some (.table .own z))
    | _ => none
  | .moment => some (none, none, none)
  | _ => none

def poolTable? (node : Node) : Option PoolTable := do
  let (cap, expire, name) ← threeFields? "cap" "expire" "name" node
  some ⟨← optional? int? cap, ← optional? expiry? expire, ← optional? text? name⟩

def logTable? (node : Node) : Option LogTable := do
  let (level, format, service) ← threeFields? "level" "format" "service" node
  some ⟨← optional? text? level, ← optional? text? format, ← optional? text? service⟩

def ofEntries? (entries : Entries) : Option SettingsFile := do
  some ⟨← optional? poolTable? (entries.lookup "pool"),
    ← optional? logTable? (entries.lookup "log")⟩

def parse? (text : String) : Option SettingsFile := (Toml.parse? text).bind ofEntries?

end SettingsFile
end WorkerPool
