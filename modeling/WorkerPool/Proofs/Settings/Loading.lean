import WorkerPool.Pool.State
import WorkerPool.Proofs.Settings.Tables
import WorkerPool.Settings.Load

/-!
# Settings that load and pools that build

A text is loaded by looking at its pool first. Whichever way the settings of a pool are come by, their
capacity and their expiry are not zero, so a pool that is built from them is refused for neither.
-/

namespace WorkerPool

theorem ok_of_bind {ε α β : Type} {first : Except ε α} {next : α → Except ε β} {b : β}
    (ok : first >>= next = .ok b) : ∃ a, first = .ok a ∧ next a = .ok b := by
  cases first with
  | error e => cases ok
  | ok a => exact ⟨a, rfl, ok⟩

namespace Settings

variable {env : Environment} {origin text : String} {file : SettingsFile}

theorem ofText_of_parsed (parsed : SettingsFile.parse? text = some file) :
    ofText env origin text = (PoolSettings.ofTable file.pool).bind fun pool =>
      (LogSettings.ofTable env file.log).map fun log => { pool, log } := by
  simp only [ofText, parsed]
  cases PoolSettings.ofTable file.pool <;> cases LogSettings.ofTable env file.log <;> rfl

/-- What is wrong with the pool is said whatever the log is to be. -/
theorem ofText_of_fault {e : SettingsError} (parsed : SettingsFile.parse? text = some file)
    (fault : PoolTable.Fault file.pool e) : ofText env origin text = .error e := by
  rw [ofText_of_parsed parsed, fault.read (SettingsFile.parse?_fits parsed)]
  rfl

theorem ofText_gives {s : Settings} (loaded : ofText env origin text = .ok s) :
    ∃ table, PoolTable.Gives table s.pool := by
  cases parsed : SettingsFile.parse? text with
  | none =>
    simp only [ofText, parsed] at loaded
    cases loaded
  | some file =>
    have fits := SettingsFile.parse?_fits parsed
    simp only [ofText, parsed] at loaded
    obtain ⟨pool, pool_loaded, loaded⟩ := ok_of_bind loaded
    obtain ⟨log, -, loaded⟩ := ok_of_bind loaded
    cases loaded
    exact ⟨file.pool, (PoolTable.ofTable_eq_ok_iff fits).mp pool_loaded⟩

theorem ofEnvironment_pool {processors : Nat} {s : Settings}
    (loaded : ofEnvironment env processors = .ok s) :
    PoolSettings.ofEnvironment env processors = .ok s.pool := by
  obtain ⟨pool, pool_loaded, loaded⟩ := ok_of_bind loaded
  obtain ⟨log, -, loaded⟩ := ok_of_bind loaded
  cases loaded
  exact pool_loaded

end Settings

namespace PoolSettings

variable {env : Environment} {processors : Nat} {s : PoolSettings}

/-- Settings of a pool that are come by: alone from the environment, or among all settings. -/
inductive Obtained (env : Environment) : PoolSettings → Prop
  | alone {processors : Nat} {s : PoolSettings} (loaded : ofEnvironment env processors = .ok s) :
      Obtained env s
  | environment {processors : Nat} {s : Settings} (loaded : Settings.ofEnvironment env processors = .ok s) :
      Obtained env s.pool
  | text {origin text} {s : Settings} (loaded : Settings.ofText env origin text = .ok s) :
      Obtained env s.pool
  | file {path content} {s : Settings} (loaded : Settings.ofFile env path content = .ok s) :
      Obtained env s.pool

structure Positive (s : PoolSettings) : Prop where
  capacity : 0 < s.capacity
  expiry : 0 < s.expiry.nanos

theorem capacityOf_positive {capacity : Nat} (loaded : capacityOf env processors = .ok capacity) :
    0 < capacity := by
  obtain ⟨requested, -, loaded⟩ := ok_of_bind loaded
  by_cases zero : (if requested = 0 then processors else requested) = 0
  · simp only [if_pos zero] at loaded
    cases loaded
  · simp only [if_neg zero] at loaded
    cases loaded
    exact Nat.pos_of_ne_zero zero

theorem expiryOf_positive {expiry : Duration} (loaded : expiryOf env = .ok expiry) : 0 < expiry.nanos := by
  obtain ⟨d?, spelt, loaded⟩ := ok_of_bind loaded
  cases d? with
  | none => cases loaded
  | some d =>
    cases loaded
    rw [Environment.duration] at spelt
    cases read : Duration.parse (env.getD "POOL_EXPIRE" "1s") with
    | error e =>
      rw [read] at spelt
      cases spelt
    | ok d? =>
      rw [read] at spelt
      cases spelt
      exact Duration.parse_positive read

theorem ofEnvironment_positive (loaded : ofEnvironment env processors = .ok s) : s.Positive := by
  obtain ⟨capacity, capacity_loaded, loaded⟩ := ok_of_bind loaded
  obtain ⟨expiry, expiry_loaded, loaded⟩ := ok_of_bind loaded
  cases loaded
  exact ⟨capacityOf_positive capacity_loaded, expiryOf_positive expiry_loaded⟩

theorem positive_of_gives {table : Option PoolTable} (gives : PoolTable.Gives table s) : s.Positive := by
  cases gives with
  | settings inside gives =>
    have capacity := Int.pos_iff_toNat_pos.mp (Int.lt_of_lt_of_le Int.zero_lt_one inside.1)
    exact ⟨capacity, gives.positive⟩

theorem Obtained.positive (obtained : Obtained env s) : s.Positive := by
  cases obtained with
  | alone loaded => exact ofEnvironment_positive loaded
  | environment loaded => exact ofEnvironment_positive (Settings.ofEnvironment_pool loaded)
  | text loaded =>
    obtain ⟨table, gives⟩ := Settings.ofText_gives loaded
    exact positive_of_gives gives
  | @file path content s loaded =>
    cases content with
    | error cause => cases loaded
    | ok text =>
      obtain ⟨table, gives⟩ := Settings.ofText_gives loaded
      exact positive_of_gives gives

theorem Positive.check (positive : s.Positive) : s.plan.check = .ok () := by
  have capacity : s.plan.capacity ≠ 0 := Nat.ne_of_gt positive.capacity
  have expiry : s.plan.expiry.nanos ≠ 0 := Nat.ne_of_gt positive.expiry
  rw [Plan.check, if_neg capacity, if_neg expiry]

/-- Positive settings build a pool, unless the system refuses the sweeper its thread. -/
theorem Positive.build {α : Type} (positive : s.Positive) :
    (∃ p : Pool α, Pool.build s.plan true = .ok p) ∧
      (Pool.build s.plan false : Except PoolError (Pool α)) = .error (.spawn refusalReason) := by
  simp only [Pool.build, positive.check]
  exact ⟨⟨_, rfl⟩, rfl⟩

/-- A table gives its settings, or fails with the first thing that is wrong with it. A text whose table
fails does so before the log is looked at. From settings that were loaded a pool is built, if its sweeper
is granted a thread. -/
theorem loaded_settings_build {table : Option PoolTable} (fits : ∀ t ∈ table, t.Fits) (env : Environment)
    (α : Type) :
    (∀ s, ofTable table = .ok s ↔ PoolTable.Gives table s) ∧
      (∀ e, ofTable table = .error e ↔ PoolTable.Fault table e) ∧
      (∀ origin text file, SettingsFile.parse? text = some file → (∀ t ∈ file.pool, t.Fits) ∧
        ∀ e, PoolTable.Fault file.pool e → Settings.ofText env origin text = .error e) ∧
      ∀ s, Obtained env s → s.plan.check = .ok () ∧
        (∃ p : Pool α, Pool.build s.plan true = .ok p) ∧
        (Pool.build s.plan false : Except PoolError (Pool α)) = .error (.spawn refusalReason) := by
  refine ⟨fun s => PoolTable.ofTable_eq_ok_iff fits, fun e => PoolTable.ofTable_eq_error_iff fits, ?_, ?_⟩
  · intro origin text file parsed
    exact ⟨SettingsFile.parse?_fits parsed, fun e => Settings.ofText_of_fault parsed⟩
  · intro s obtained
    have positive := obtained.positive
    exact ⟨positive.check, positive.build⟩

/-- The greatest capacity loads, and a spelling of zero is refused before the level of the log is. -/
theorem loaded_settings_build_at_bounds :
    let text := "[pool]\ncap = 9223372036854775807\nexpire = \" +01 MS \"\n"
    let table := { cap := some 9223372036854775807, expire := some (.text " +01 MS ") : PoolTable }
    let s := { capacity := 9223372036854775807, expiry := .ofMillis 1 : PoolSettings }
    let zero := "[pool]\ncap = 1\nexpire = \"+00 ms\"\n[log]\nlevel = \"loud\"\n"
    SettingsFile.parse? text = some { pool := some table } ∧ ofTable (some table) = .ok s ∧
      s.plan.check = .ok () ∧ Settings.ofText (.ofList []) "<string>" zero =
        .error (.invalid "pool.expire" "expiry must be positive") := by
  intro text table s zero
  have parsed : SettingsFile.parse? text = some { pool := some table } := by decide +kernel
  have parsed_zero : SettingsFile.parse? zero = some
      { pool := some { cap := some 1, expire := some (.text "+00 ms") }
        log := some { level := some "loud" } } := by decide +kernel
  have fits : ∀ t ∈ some table, t.Fits := SettingsFile.parse?_fits parsed
  have gives : PoolTable.Gives (some table) s := .settings ⟨by decide, by decide⟩ (.text (by rfl))
  have loaded : Settings.ofText (.ofList []) "<string>" text =
      .ok { pool := s, log := { filter := "tidepool=info", format := .json, service := "tidepool" } } := by
    rw [Settings.ofText_of_parsed parsed, gives.read]
    rfl
  have spelt : Duration.parse "+00 ms" = .ok none := by rfl
  have fault : PoolTable.Fault (some { cap := some 1, expire := some (.text "+00 ms") })
      (.invalid "pool.expire" "expiry must be positive") := .expire ⟨by decide, by decide⟩ (.off spelt)
  obtain ⟨loads, -, refused, builds⟩ := loaded_settings_build fits (.ofList []) Unit
  have obtained := PoolSettings.Obtained.text loaded
  exact ⟨parsed, (loads s).mpr gives, (builds _ obtained).1, (refused _ _ _ parsed_zero).2 _ fault⟩

end PoolSettings
end WorkerPool
