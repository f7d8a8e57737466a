import WorkerPool.Log.Event
import WorkerPool.Settings.Log
import WorkerPool.Settings.Pool

/-!
All settings together: from the environment alone, or from a file with the environment behind it.
-/

namespace WorkerPool

inductive Source
  /-- The environment alone, on a machine with some processors. -/
  | environment (processors : Nat)
  /-- A file, with the environment behind it, and what reading the file gave. -/
  | file (path : String) (content : Except FileError String)

structure Settings where
  pool : PoolSettings
  log : LogSettings
  deriving DecidableEq, Repr

namespace Settings

def ofEnvironment (env : Environment) (processors : Nat) : Except SettingsError Settings := do
  return { pool := ← PoolSettings.ofEnvironment env processors
           log := ← LogSettings.ofEnvironment env }

/-- Settings from the text of a file, which error messages call `origin`. -/
def ofText (env : Environment) (origin text : String) : Except SettingsError Settings :=
  match SettingsFile.parse? text with
  | none => .error (.malformed origin "not a settings file")
  | some file => do
    return { pool := ← PoolSettings.ofTable file.pool, log := ← LogSettings.ofTable env file.log }

def ofFile (env : Environment) (path : String) (content : Except FileError String) :
    Except SettingsError Settings :=
  match content with
  | .ok text => ofText env path text
  | .error cause => .error (.io path cause)

def ofSource (env : Environment) : Source → Except SettingsError Settings
  | .environment processors => ofEnvironment env processors
  | .file path content => ofFile env path content

def poolOfSource (env : Environment) : Source → Except SettingsError PoolSettings
  | .environment processors => PoolSettings.ofEnvironment env processors
  | .file path content => do
    let text ← content.mapError (.io path)
    match SettingsFile.parse? text with
    | some file => PoolSettings.ofTable file.pool
    | none => throw (.malformed path "not a settings file")

/-- What is said while settings are loaded: something about the log, but only if the settings of
the pool are in order. -/
def warnings (env : Environment) (source : Source) : List String :=
  match poolOfSource env source with
  | .ok _ => LogSettings.warnings env
  | .error _ => []

def summary (s : Settings) : List String :=
  ["Configuration loaded:",
    "  Pool: " ++ s.pool.name,
    "  Capacity: " ++ toString s.pool.capacity,
    "  Idle expiry: " ++ s.pool.expiry.text,
    "  Log filter: " ++ s.log.filter,
    "  Log format: " ++ s.log.format.title]

def summaryEvents (s : Settings) : List Log.Event :=
  s.summary.map fun line => { level := .info, target := "tidepool::config"
                              fields := [("message", .text line)] }

end Settings
end WorkerPool
