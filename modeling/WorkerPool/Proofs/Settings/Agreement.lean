import WorkerPool.Proofs.Decimal.Whole
import WorkerPool.Settings.Pool

/-!
# Settings from both sources

A pool can be set up from variables or from the table of a file. Where both give the same capacity,
expiry and name, in the same spelling, both load the same settings, or both fail for the same reason.
-/

namespace WorkerPool

/-- Whether two errors give the same reason, though for settings that go by different names. -/
inductive SettingsError.Alike : SettingsError → SettingsError → Prop
  | parse {key other value reason} : Alike (.parse key value reason) (.parse other value reason)
  | invalid {key other message} : Alike (.invalid key message) (.invalid other message)

namespace PoolSettings

inductive Agree : Except SettingsError PoolSettings → Except SettingsError PoolSettings → Prop
  | loaded {s} : Agree (.ok s) (.ok s)
  | failed {e f} (alike : e.Alike f) : Agree (.error e) (.error f)

variable {env : Environment} {processors cap : Nat} {expire name key other : String}

/-- The expiry that a setting spells. -/
def spelt (key expire : String) : Except SettingsError Duration :=
  match Duration.parse expire with
  | .ok (some expiry) => .ok expiry
  | .ok none => .error (.invalid key "expiry must be positive")
  | .error e => .error (.parse key expire e.message)

theorem expiryOf_eq (given : env "POOL_EXPIRE" = some expire) : expiryOf env = spelt "POOL_EXPIRE" expire := by
  simp only [expiryOf, Environment.duration, Environment.getD, given, Option.getD_some, spelt]
  cases Duration.parse expire with
  | error e => rfl
  | ok duration? => cases duration? <;> rfl

theorem positiveExpiry_text (expire : String) :
    positiveExpiry (.text expire) = spelt "pool.expire" expire := by
  simp only [positiveExpiry, spelt]
  cases Duration.parse expire with
  | error e => rfl
  | ok duration? => cases duration? <;> rfl

theorem capacityOf_eq (given : env "POOL_CAP" = some (toString cap)) (positive : 1 ≤ cap)
    (bounded : cap ≤ Decimal.countMax) (processors : Nat) : capacityOf env processors = .ok cap := by
  have some : env.nonempty? "POOL_CAP" = some (toString cap) := by simp [Environment.nonempty?, given]
  have requested : requestedCapacity env = .ok cap := by
    rw [requestedCapacity, Environment.count, some]
    simp only [Decimal.readCount, Decimal.readNat_toString bounded]
    rfl
  have nonzero : cap ≠ 0 := Nat.ne_of_gt positive
  simp [capacityOf, requested, nonzero, bind, Except.bind, pure, Except.pure]

theorem positiveCapacity_eq (positive : 1 ≤ cap) : positiveCapacity cap = .ok cap := by
  rw [positiveCapacity, if_pos (Int.natCast_pos.mpr positive), Int.toNat_natCast]

/-- The settings of variables that are all set depend on what their expiry spells. -/
theorem ofEnvironment_eq (capacity : env "POOL_CAP" = some (toString cap)) (positive : 1 ≤ cap)
    (bounded : cap ≤ Decimal.countMax) (expiry : env "POOL_EXPIRE" = some expire)
    (named : env "POOL_NAME" = some name) (processors : Nat) :
    ofEnvironment env processors = (spelt "POOL_EXPIRE" expire).map ({ capacity := cap, expiry := ·, name }) := by
  rw [ofEnvironment, capacityOf_eq capacity positive bounded, expiryOf_eq expiry]
  simp only [Environment.getD, named, Option.getD_some]
  cases spelt "POOL_EXPIRE" expire <;> rfl

/-- So do those of a table in which nothing is left out. -/
theorem ofTable_eq (positive : 1 ≤ cap) (expire name : String) :
    ofTable (some { cap := some cap, expire := some (.text expire), name := some name }) =
      (spelt "pool.expire" expire).map ({ capacity := cap, expiry := ·, name }) := by
  simp only [ofTable, required, bind, Except.bind, positiveCapacity_eq positive, positiveExpiry_text]
  cases spelt "pool.expire" expire <;> rfl

theorem spelt_eq_ok_iff {expiry : Duration} :
    spelt key expire = .ok expiry ↔ Duration.parse expire = .ok (some expiry) := by
  unfold spelt
  split <;> simp_all

theorem spelt_agree (key other expire : String) (f : Duration → PoolSettings) :
    Agree ((spelt key expire).map f) ((spelt other expire).map f) := by
  unfold spelt
  split
  · exact .loaded
  · exact .failed .invalid
  · exact .failed .parse

/-- Variables and a table that give the same capacity, expiry and name load the same settings, namely
these three, or fail for the same reason. -/
theorem sources_agree (positive : 1 ≤ cap) (bounded : cap ≤ Decimal.signedMax)
    (capacity : env "POOL_CAP" = some (toString cap)) (expiry : env "POOL_EXPIRE" = some expire)
    (named : env "POOL_NAME" = some name) (processors : Nat) :
    Agree (ofEnvironment env processors)
        (ofTable (some { cap := some cap, expire := some (.text expire), name := some name })) ∧
      ∀ s, ofEnvironment env processors = .ok s ↔
        ∃ d, Duration.parse expire = .ok (some d) ∧ s = { capacity := cap, expiry := d, name } := by
  have word : cap ≤ Decimal.countMax := Nat.le_trans bounded (by decide)
  rw [ofEnvironment_eq capacity positive word expiry named, ofTable_eq positive]
  refine ⟨spelt_agree .., ?_⟩
  intro s
  constructor
  · intro loaded
    cases spells : spelt "POOL_EXPIRE" expire with
    | error e =>
      rw [spells] at loaded
      cases loaded
    | ok d =>
      rw [spells] at loaded
      exact ⟨d, spelt_eq_ok_iff.mp spells, (Except.ok.inj loaded).symm⟩
  · rintro ⟨d, spells, rfl⟩
    rw [spelt_eq_ok_iff.mpr spells]
    rfl

/-- A zero in front and an empty name are read alike in both places. -/
theorem sources_agree_on_padding :
    let env := Environment.ofList [("POOL_CAP", "8"), ("POOL_EXPIRE", " +0250 MS "), ("POOL_NAME", "")]
    let table := { cap := some 8, expire := some (.text " +0250 MS "), name := some "" : PoolTable }
    env "POOL_CAP" = some (toString 8) ∧ Duration.parse " +0250 MS " = .ok (some (.ofMillis 250)) ∧
      Agree (ofEnvironment env 4) (ofTable (some table)) ∧
      ofEnvironment env 4 = .ok { capacity := 8, expiry := .ofMillis 250, name := "" } := by
  intro env table
  have capacity : env "POOL_CAP" = some (toString 8) := by decide
  have spells : Duration.parse " +0250 MS " = .ok (some (.ofMillis 250)) := by rfl
  have expiry : env "POOL_EXPIRE" = some " +0250 MS " := by decide
  have named : env "POOL_NAME" = some "" := by decide
  obtain ⟨agree, loads⟩ := sources_agree (by decide) (by decide) capacity expiry named 4
  exact ⟨capacity, spells, agree, (loads _).mpr ⟨_, spells, rfl⟩⟩

end PoolSettings
end WorkerPool
