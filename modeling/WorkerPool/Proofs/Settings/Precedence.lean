import WorkerPool.Proofs.Settings.Loading

/-!
# A file before the environment

What a settings file says of the log goes before what the environment says, and the variables behind
the keys that the file sets have no say, but for one: the environment is read as a whole before the
file's table is, so a format that it spells wrongly is an error even where the file sets another.
-/

namespace WorkerPool

namespace LogFormat

theorem parse_eq_error {key value : String} {e : SettingsError} (refused : parse key value = .error e) :
    ∃ message, e = .invalid key message := by
  unfold parse at refused
  split at refused <;> cases refused
  exact ⟨_, rfl⟩

end LogFormat

namespace LogTable

variable {table : LogTable} {e : SettingsError}

/-- The variables behind the keys that a table of the log leaves out. -/
def leftOut (table : LogTable) : List String :=
  (if table.level.isNone then ["LOG_LEVEL", "RUST_LOG"] else []) ++
    (if table.format.isNone then ["LOG_FORMAT"] else []) ++
    (if table.service.isNone then ["SERVICE_NAME"] else [])

def filterOr (table : LogTable) (other : String) : Except SettingsError String :=
  match table.level with
  | some level => LogSettings.tableFilter level
  | none => pure other

def formatOr (table : LogTable) (other : LogFormat) : Except SettingsError LogFormat :=
  match table.format with
  | some format => LogFormat.parse "log.format" format
  | none => pure other

/-- The settings of a table, with others for what it leaves out. -/
def settle (table : LogTable) (others : LogSettings) : Except SettingsError LogSettings := do
  let filter ← table.filterOr others.filter
  let format ← table.formatOr others.format
  return { filter, format, service := table.service.getD others.service }

theorem filterOr_eq_error {other : String} (refused : table.filterOr other = .error e) :
    ∃ message, e = .invalid "log.level" message := by
  unfold filterOr LogSettings.tableFilter at refused
  split at refused
  · split at refused <;> cases refused
    exact ⟨_, rfl⟩
  · cases refused

theorem formatOr_eq_error {other : LogFormat} (refused : table.formatOr other = .error e) :
    ∃ message, e = .invalid "log.format" message := by
  unfold formatOr at refused
  split at refused
  · exact LogFormat.parse_eq_error refused
  · cases refused

/-- What is wrong with a table is said under the names of its keys. -/
theorem settle_ne_error {others : LogSettings} (message : String) :
    table.settle others ≠ .error (.invalid "LOG_FORMAT" message) := by
  intro refused
  unfold settle at refused
  cases filter : table.filterOr others.filter with
  | error e =>
    obtain ⟨_, rfl⟩ := filterOr_eq_error filter
    simp [filter, bind, Except.bind] at refused
  | ok _ =>
    cases format : table.formatOr others.format with
    | error e =>
      obtain ⟨_, rfl⟩ := formatOr_eq_error format
      simp [filter, format, bind, Except.bind] at refused
    | ok _ => simp [filter, format, bind, Except.bind, pure, Except.pure] at refused

/-- Only what a table leaves out is taken from elsewhere. -/
theorem settle_congr {s t : LogSettings} (filter : table.level = none → s.filter = t.filter)
    (format : table.format = none → s.format = t.format)
    (service : table.service = none → s.service = t.service) : table.settle s = table.settle t := by
  have filters : table.filterOr s.filter = table.filterOr t.filter := by
    unfold filterOr
    split
    · rfl
    · rename_i absent
      rw [filter absent]
  have formats : table.formatOr s.format = table.formatOr t.format := by
    unfold formatOr
    split
    · rfl
    · rename_i absent
      rw [format absent]
  have services : table.service.getD s.service = table.service.getD t.service := by
    cases given : table.service with
    | some _ => rfl
    | none => rw [Option.getD_none, Option.getD_none, service given]
  rw [settle, settle, filters, formats, services]

end LogTable

namespace SettingsFile

/-- The variables behind the keys of the log that a text leaves out. A text without a table of the log
leaves out all of them, and one that is no settings file has no keys. -/
def leftOut (text : String) : List String :=
  match parse? text with
  | some file => (file.log.getD {}).leftOut
  | none => []

def DescribesPool (text : String) : Prop :=
  ∃ file s, parse? text = some file ∧ PoolSettings.ofTable file.pool = .ok s

end SettingsFile

namespace LogSettings

variable {env env₁ env₂ : Environment} {table : LogTable} {e : SettingsError}

def formatFault? (env : Environment) : Option SettingsError :=
  match LogFormat.parse "LOG_FORMAT" (env.getD "LOG_FORMAT" "json") with
  | .ok _ => none
  | .error e => some e

theorem ofTable_eq_bind (env : Environment) (table : Option LogTable) :
    ofTable env table = (ofEnvironment env).bind (table.getD {}).settle := by
  cases table with
  | none => rfl
  | some table =>
    obtain ⟨level, format, service⟩ := table
    cases level <;> cases format <;> rfl

/-- A format that is refused keeps the table from being read. -/
theorem ofTable_of_fault (fault : formatFault? env = some e) (table : Option LogTable) :
    ofTable env table = .error e ∧ ∃ message, e = .invalid "LOG_FORMAT" message := by
  unfold formatFault? at fault
  split at fault
  · cases fault
  · rename_i refused
    cases fault
    refine ⟨?_, LogFormat.parse_eq_error refused⟩
    simp [ofTable_eq_bind, ofEnvironment, refused, bind, Except.bind]

/-- Otherwise the table is settled, with what the environment says for what it leaves out. -/
theorem ofTable_of_fine (fine : formatFault? env = none) : ∃ format,
    LogFormat.parse "LOG_FORMAT" (env.getD "LOG_FORMAT" "json") = .ok format ∧ ∀ table : Option LogTable,
      ofTable env table = (table.getD {}).settle
        { filter := filterOf env, format, service := env.getD "SERVICE_NAME" "tidepool" } := by
  unfold formatFault? at fine
  split at fine
  · rename_i format parsed
    refine ⟨format, parsed, ?_⟩
    intro table
    simp [ofTable_eq_bind, ofEnvironment, parsed, bind, Except.bind, pure, Except.pure]
  · cases fine

theorem ofTable_congr {table : Option LogTable}
    (agree : ∀ key ∈ (table.getD {}).leftOut, env₁ key = env₂ key)
    (fine₁ : formatFault? env₁ = none) (fine₂ : formatFault? env₂ = none) :
    ofTable env₁ table = ofTable env₂ table := by
  obtain ⟨format₁, parsed₁, settled₁⟩ := ofTable_of_fine fine₁
  obtain ⟨format₂, parsed₂, settled₂⟩ := ofTable_of_fine fine₂
  rw [settled₁, settled₂]
  apply LogTable.settle_congr
  · intro absent
    have level := agree "LOG_LEVEL" (by simp [LogTable.leftOut, absent])
    have filter := agree "RUST_LOG" (by simp [LogTable.leftOut, absent])
    simp [filterOf, Environment.getD, level, filter]
  · intro absent
    have format := agree "LOG_FORMAT" (by simp [LogTable.leftOut, absent])
    rw [Environment.getD, format] at parsed₁
    exact Except.ok.inj (parsed₁.symm.trans parsed₂)
  · intro absent
    have service := agree "SERVICE_NAME" (by simp [LogTable.leftOut, absent])
    simp [Environment.getD, service]

/-- Two environments that agree on what a table leaves out come to the same with it, but where one of
them spells a format wrongly. -/
theorem ofTable_eq_ofTable_iff {table : Option LogTable}
    (agree : ∀ key ∈ (table.getD {}).leftOut, env₁ key = env₂ key) :
    ofTable env₁ table = ofTable env₂ table ↔ formatFault? env₁ = formatFault? env₂ := by
  cases fault₁ : formatFault? env₁ with
  | none =>
    cases fault₂ : formatFault? env₂ with
    | none => simp [ofTable_congr agree fault₁ fault₂]
    | some e =>
      obtain ⟨_, -, settled⟩ := ofTable_of_fine fault₁
      obtain ⟨failed, message, rfl⟩ := ofTable_of_fault fault₂ table
      simp [settled, failed, LogTable.settle_ne_error]
  | some e =>
    obtain ⟨failed₁, message, rfl⟩ := ofTable_of_fault fault₁ table
    cases fault₂ : formatFault? env₂ with
    | none =>
      obtain ⟨_, -, settled⟩ := ofTable_of_fine fault₂
      simp [settled, failed₁, (LogTable.settle_ne_error message).symm]
    | some f =>
      obtain ⟨failed₂, -⟩ := ofTable_of_fault fault₂ table
      simp [failed₁, failed₂]

end LogSettings

namespace Settings

variable {env env₁ env₂ : Environment} {origin text : String}

theorem map_log_inj {pool : PoolSettings} {first second : Except SettingsError LogSettings} :
    (first.map fun log => ({ pool, log } : Settings)) = second.map ({ pool, log := · }) ↔
      first = second := by
  cases first <;> cases second <;> simp [Except.map]

/-- Two environments that agree on the variables behind what a file leaves out load the same settings
with it, or fail alike, unless they differ in why their formats are refused. That is seen only where
nothing is wrong with the pool. -/
theorem file_goes_first (agree : ∀ key ∈ SettingsFile.leftOut text, env₁ key = env₂ key) :
    ofText env₁ origin text = ofText env₂ origin text ↔
      (SettingsFile.DescribesPool text →
        LogSettings.formatFault? env₁ = LogSettings.formatFault? env₂) := by
  cases parsed : SettingsFile.parse? text with
  | none => simp [ofText, SettingsFile.DescribesPool, parsed]
  | some file =>
    have agree : ∀ key ∈ (file.log.getD {}).leftOut, env₁ key = env₂ key := by
      simpa only [SettingsFile.leftOut, parsed] using agree
    have logs := LogSettings.ofTable_eq_ofTable_iff agree
    rw [ofText_of_parsed parsed, ofText_of_parsed parsed]
    cases pool : PoolSettings.ofTable file.pool with
    | error e => simp [SettingsFile.DescribesPool, parsed, pool, Except.bind]
    | ok s =>
      have describes : SettingsFile.DescribesPool text := ⟨file, s, parsed, pool⟩
      rw [← logs, imp_iff_right describes]
      exact map_log_inj

def outspoken : String :=
  "[pool]\ncap = 1\nexpire = 1\n[log]\nlevel = \"info\"\nformat = \"text\"\nservice = \"jobs\"\n"

theorem file_goes_first_in_full :
    let env := Environment.ofList [("LOG_LEVEL", "loud"), ("LOG_FORMAT", "JSON"), ("SERVICE_NAME", "other")]
    SettingsFile.leftOut outspoken = [] ∧
      ofText env "<string>" outspoken = ofText (.ofList []) "<string>" outspoken := by
  intro env
  have nothing : SettingsFile.leftOut outspoken = [] := by decide +kernel
  refine ⟨nothing, (file_goes_first ?_).mpr fun _ => by decide +kernel⟩
  intro key member
  rw [nothing] at member
  cases member

/-- A format that the environment spells wrongly keeps a file from being loaded that sets it. -/
theorem file_overruled :
    SettingsFile.leftOut outspoken = [] ∧
      ofText (.ofList []) "<string>" outspoken = .ok
        { pool := { capacity := 1, expiry := .ofSeconds 1 }
          log := { filter := "tidepool=info", format := .text, service := "jobs" } } ∧
      ofText (.ofList [("LOG_FORMAT", "xml")]) "<string>" outspoken =
        .error (.invalid "LOG_FORMAT" "expected json or text, got 'xml'") :=
  ⟨by decide +kernel, by rfl, by rfl⟩

end Settings
end WorkerPool
