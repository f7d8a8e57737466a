import WorkerPool.Settings.Environment
import WorkerPool.Settings.Table
import WorkerPool.Text.Lowercase

/-!
Settings of the log, from the environment, with a file going before it.
-/

namespace WorkerPool

inductive LogFormat
  /-- One object per line. -/
  | json
  /-- Lines for people. -/
  | text
  deriving DecidableEq, Repr

def lowered (s : String) : String := String.ofList (Text.lower s.toList)

namespace LogFormat

def parse (key value : String) : Except SettingsError LogFormat :=
  match lowered value with
  | "json" => .ok .json
  | "text" | "pretty" => .ok .text
  | _ => .error (.invalid key ("expected json or text, got '" ++ value ++ "'"))

def title : LogFormat → String
  | .json => "Json"
  | .text => "Text"

end LogFormat

structure LogSettings where
  /-- Which events are logged, as a filter spells it. -/
  filter : String
  format : LogFormat
  service : String
  deriving DecidableEq, Repr

namespace LogSettings

def levelFilter? (level : String) : Option String :=
  let level := lowered level
  if ["trace", "debug", "info", "warn", "error"].contains level then
    some ("tidepool=" ++ level)
  else none

def levelWarning (level : String) : String :=
  "Warning: Invalid LOG_LEVEL '" ++ level ++ "', expected: trace, debug, info, warn, error"

/-- The filter of the environment: a level goes before a filter, and a level that is none is
passed over. -/
def filterOf (env : Environment) : String :=
  ((env "LOG_LEVEL").bind levelFilter?).getD (env.getD "RUST_LOG" "tidepool=info")

def warnings (env : Environment) : List String :=
  match env "LOG_LEVEL" with
  | some level => if (levelFilter? level).isNone then [levelWarning level] else []
  | none => []

def ofEnvironment (env : Environment) : Except SettingsError LogSettings := do
  return { filter := filterOf env
           format := ← LogFormat.parse "LOG_FORMAT" (env.getD "LOG_FORMAT" "json")
           service := env.getD "SERVICE_NAME" "tidepool" }

def tableFilter (level : String) : Except SettingsError String :=
  match levelFilter? level with
  | some filter => .ok filter
  | none => .error (.invalid "log.level" ("unknown level '" ++ level ++ "'"))

/-- Settings from the table of a file, and from the environment for what the table leaves out.
The environment is read first, so its errors go before those of the table. -/
def ofTable (env : Environment) (table : Option LogTable) : Except SettingsError LogSettings := do
  let settings ← ofEnvironment env
  match table with
  | none => return settings
  | some table =>
    let filter ← match table.level with
      | some level => tableFilter level
      | none => pure settings.filter
    let format ← match table.format with
      | some format => LogFormat.parse "log.format" format
      | none => pure settings.format
    return { filter, format, service := table.service.getD settings.service }

end LogSettings
end WorkerPool
