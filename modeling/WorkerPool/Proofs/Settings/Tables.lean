import WorkerPool.Proofs.Toml.Words
import WorkerPool.Settings.Pool

/-!
# The table of a pool

The table of a pool gives its settings, or has a first fault, which is the error. Where the table comes
from a file, its whole numbers fit in 64 bits.
-/

namespace WorkerPool

namespace Duration

variable {text : List Char} {spelling : String} {d : Duration}

theorem ofMillis_positive {n : Nat} (positive : 0 < n) : 0 < (ofMillis n).nanos :=
  Nat.mul_pos positive (by decide)

theorem ofSeconds_positive {n : Nat} (positive : 0 < n) : 0 < (ofSeconds n).nanos :=
  Nat.mul_pos positive (by decide)

/-- A duration that is spelt is a number of milliseconds in a word, and not zero. -/
theorem read_eq_some (spelt : read text = .ok (some d)) :
    ∃ n, 0 < n ∧ n ≤ Decimal.countMax ∧ d = ofMillis n := by
  unfold read at spelt
  split at spelt
  · cases spelt
  · simp only at spelt
    split at spelt
    · cases spelt
    · split at spelt
      · cases spelt
      · rename_i nonzero
        split at spelt
        · rename_i bounded
          cases spelt
          exact ⟨_, Nat.pos_of_ne_zero nonzero, bounded, rfl⟩
        · cases spelt

theorem parse_positive (spelt : parse spelling = .ok (some d)) : 0 < d.nanos := by
  obtain ⟨n, positive, -, rfl⟩ := read_eq_some spelt
  exact ofMillis_positive positive

end Duration

namespace ExpiryText

variable {expire : ExpiryText} {d : Duration} {e : SettingsError}

/-- The duration that an expiry gives. -/
inductive Gives : ExpiryText → Duration → Prop
  | seconds {n : Int} (positive : 0 < n) : Gives (.seconds n) (.ofSeconds n.toNat)
  | text {spelling d} (spelt : Duration.parse spelling = .ok (some d)) : Gives (.text spelling) d

inductive Fault : ExpiryText → SettingsError → Prop
  | seconds {n : Int} (refused : n ≤ 0) :
      Fault (.seconds n) (.invalid "pool.expire" ("expiry must be positive, got " ++ toString n))
  | off {spelling} (spelt : Duration.parse spelling = .ok none) :
      Fault (.text spelling) (.invalid "pool.expire" "expiry must be positive")
  | unreadable {spelling e} (refused : Duration.parse spelling = .error e) :
      Fault (.text spelling) (.parse "pool.expire" spelling e.message)

theorem Gives.positive (gives : expire.Gives d) : 0 < d.nanos := by
  cases gives with
  | seconds positive => exact Duration.ofSeconds_positive (by omega)
  | text spelt => exact Duration.parse_positive spelt

theorem Gives.read (gives : expire.Gives d) : PoolSettings.positiveExpiry expire = .ok d := by
  cases gives with
  | seconds positive => exact if_pos positive
  | text spelt => simp only [PoolSettings.positiveExpiry, spelt]

theorem Fault.read (fault : expire.Fault e) : PoolSettings.positiveExpiry expire = .error e := by
  cases fault with
  | seconds refused => exact if_neg (Int.not_lt.mpr refused)
  | off spelt => simp only [PoolSettings.positiveExpiry, spelt]
  | unreadable refused => simp only [PoolSettings.positiveExpiry, refused]

theorem gives_or_fault (expire : ExpiryText) : (∃ d, expire.Gives d) ∨ ∃ e, expire.Fault e := by
  cases expire with
  | seconds n =>
    by_cases positive : 0 < n
    · exact .inl ⟨_, .seconds positive⟩
    · exact .inr ⟨_, .seconds (Int.not_lt.mp positive)⟩
  | text spelling =>
    cases spelt : Duration.parse spelling with
    | error e => exact .inr ⟨_, .unreadable spelt⟩
    | ok d? =>
      cases d? with
      | none => exact .inr ⟨_, .off spelt⟩
      | some d => exact .inl ⟨d, .text spelt⟩

end ExpiryText

namespace PoolTable

variable {table : Option PoolTable} {s : PoolSettings} {e : SettingsError}

structure Fits (table : PoolTable) : Prop where
  cap : ∀ cap, table.cap = some cap → Toml.IsWord cap
  expire : ∀ n, table.expire = some (.seconds n) → Toml.IsWord n

/-- Whether a number is a capacity: positive, and within the signed numbers of 64 bits. -/
def IsCapacity (cap : Int) : Prop := 1 ≤ cap ∧ cap ≤ Decimal.signedMax

/-- The settings that a table gives. -/
inductive Gives : Option PoolTable → PoolSettings → Prop
  | settings {cap expire name d} (inside : IsCapacity cap) (gives : expire.Gives d) :
      Gives (some { cap := some cap, expire := some expire, name })
        { capacity := cap.toNat, expiry := d, name := name.getD defaultName }

/-- The first thing that is wrong with a table. -/
inductive Fault : Option PoolTable → SettingsError → Prop
  | noTable : Fault none (.missing "pool")
  | noCap {expire name} : Fault (some { cap := none, expire, name }) (.missing "pool.cap")
  | cap {cap expire name} (outside : ¬ IsCapacity cap) : Fault (some { cap := some cap, expire, name })
      (.invalid "pool.cap" ("capacity must be positive, got " ++ toString cap))
  | noExpire {cap name} (inside : IsCapacity cap) :
      Fault (some { cap := some cap, expire := none, name }) (.missing "pool.expire")
  | expire {cap expire name e} (inside : IsCapacity cap) (fault : expire.Fault e) :
      Fault (some { cap := some cap, expire := some expire, name }) e

theorem gives_or_fault (table : Option PoolTable) : (∃ s, Gives table s) ∨ ∃ e, Fault table e := by
  cases table with
  | none => exact .inr ⟨_, .noTable⟩
  | some table =>
    obtain ⟨cap, expire, name⟩ := table
    cases cap with
    | none => exact .inr ⟨_, .noCap⟩
    | some cap =>
      by_cases inside : IsCapacity cap
      · cases expire with
        | none => exact .inr ⟨_, .noExpire inside⟩
        | some expire =>
          obtain ⟨d, gives⟩ | ⟨e, fault⟩ := expire.gives_or_fault
          · exact .inl ⟨_, .settings inside gives⟩
          · exact .inr ⟨_, .expire inside fault⟩
      · exact .inr ⟨_, .cap inside⟩

theorem IsCapacity.read {cap : Int} (inside : IsCapacity cap) :
    PoolSettings.positiveCapacity cap = .ok cap.toNat :=
  if_pos (Int.lt_of_lt_of_le Int.zero_lt_one inside.1)

theorem read_of_not_isCapacity {cap : Int} (outside : ¬ IsCapacity cap) (word : Toml.IsWord cap) :
    PoolSettings.positiveCapacity cap =
      .error (.invalid "pool.cap" ("capacity must be positive, got " ++ toString cap)) :=
  if_neg fun positive => outside ⟨positive, word.2⟩

theorem Gives.read (gives : Gives table s) : PoolSettings.ofTable table = .ok s := by
  cases gives with
  | settings inside gives =>
    simp only [PoolSettings.ofTable, PoolSettings.required, bind, Except.bind, inside.read, gives.read]
    rfl

theorem Fault.read (fault : Fault table e) (fits : ∀ t ∈ table, t.Fits) :
    PoolSettings.ofTable table = .error e := by
  cases fault with
  | noTable => rfl
  | noCap => rfl
  | cap outside =>
    have refused := read_of_not_isCapacity outside ((fits _ rfl).cap _ rfl)
    simp only [PoolSettings.ofTable, PoolSettings.required, bind, Except.bind, refused]
  | noExpire inside =>
    simp only [PoolSettings.ofTable, PoolSettings.required, bind, Except.bind, inside.read]
  | expire inside fault =>
    simp only [PoolSettings.ofTable, PoolSettings.required, bind, Except.bind, inside.read, fault.read]

theorem ofTable_eq_ok_iff (fits : ∀ t ∈ table, t.Fits) :
    PoolSettings.ofTable table = .ok s ↔ Gives table s := by
  constructor
  · intro loaded
    obtain ⟨s', gives⟩ | ⟨e, fault⟩ := gives_or_fault table
    · cases loaded.symm.trans gives.read
      exact gives
    · cases loaded.symm.trans (fault.read fits)
  · exact Gives.read

theorem ofTable_eq_error_iff (fits : ∀ t ∈ table, t.Fits) :
    PoolSettings.ofTable table = .error e ↔ Fault table e := by
  constructor
  · intro failed
    obtain ⟨s, gives⟩ | ⟨e', fault⟩ := gives_or_fault table
    · cases failed.symm.trans gives.read
    · cases failed.symm.trans (fault.read fits)
      exact fault
  · intro fault
    exact fault.read fits

end PoolTable

namespace SettingsFile

open Toml (Node Entries)

variable {node : Node} {found : Option Node}

theorem exists_of_optional? {α : Type} {read : Node → Option α} {a : α} (fits : ∀ node ∈ found, node.Fits)
    (taken : optional? read found = some (some a)) : ∃ node, node.Fits ∧ read node = some a := by
  cases found with
  | none => cases taken
  | some node =>
    obtain ⟨b, spelt, same⟩ := Option.map_eq_some_iff.mp taken
    cases same
    exact ⟨node, fits node rfl, spelt⟩

theorem isWord_of_int? {n : Int} (fits : node.Fits) (read : int? node = some n) : Toml.IsWord n := by
  cases fits with
  | int word =>
    cases read
    exact word
  | _ => cases read

theorem isWord_of_expiry? {n : Int} (fits : node.Fits) (read : expiry? node = some (.seconds n)) :
    Toml.IsWord n := by
  cases fits with
  | int word =>
    cases read
    exact word
  | _ => cases read

/-- Wherever the fields of a table stand, what is found fits if the node does. -/
theorem threeFields?_fits {a b c : String} {x y z : Option Node} (fits : node.Fits)
    (read : threeFields? a b c node = some (x, y, z)) :
    (∀ n ∈ x, n.Fits) ∧ (∀ n ∈ y, n.Fits) ∧ ∀ n ∈ z, n.Fits := by
  unfold threeFields? at read
  split at read
  · cases fits with
    | table all =>
      cases read
      exact ⟨fun _ => Entries.Fits.of_lookup all, fun _ => Entries.Fits.of_lookup all,
        fun _ => Entries.Fits.of_lookup all⟩
  · cases fits with
    | array all =>
      cases read
      simp only [List.forall_mem_cons] at all
      simp [all]
  · rename_i earlier last
    split at read
    · rename_i rows
      cases fits with
      | tables before all =>
        have each : ∀ entries ∈ earlier.reverse ++ [last], (Node.table .own entries).Fits := by
          intro entries member
          simp only [List.mem_append, List.mem_reverse, List.mem_singleton] at member
          obtain early | rfl := member
          · exact .table (before entries early)
          · exact .table all
        cases read
        simp only [rows, List.forall_mem_cons] at each
        simp [each]
    · cases read
  · cases read
    simp
  · cases read

theorem poolTable?_fits {table : PoolTable} (fits : node.Fits) (read : poolTable? node = some table) :
    table.Fits := by
  rw [poolTable?] at read
  obtain ⟨⟨x, y, z⟩, fields, read⟩ := Option.bind_eq_some_iff.mp read
  obtain ⟨cap_fits, expire_fits, -⟩ := threeFields?_fits fits fields
  obtain ⟨cap, cap_read, read⟩ := Option.bind_eq_some_iff.mp read
  obtain ⟨expire, expire_read, read⟩ := Option.bind_eq_some_iff.mp read
  obtain ⟨name, -, same⟩ := Option.bind_eq_some_iff.mp read
  cases same
  constructor
  · rintro cap rfl
    obtain ⟨node, node_fits, spelt⟩ := exists_of_optional? cap_fits cap_read
    exact isWord_of_int? node_fits spelt
  · rintro n rfl
    obtain ⟨node, node_fits, spelt⟩ := exists_of_optional? expire_fits expire_read
    exact isWord_of_expiry? node_fits spelt

/-- The table of a pool in a file holds no number that does not fit in 64 bits. -/
theorem parse?_fits {text : String} {file : SettingsFile} (parsed : parse? text = some file) :
    ∀ t ∈ file.pool, t.Fits := by
  intro t member
  obtain ⟨entries, document, read⟩ := Option.bind_eq_some_iff.mp parsed
  have fits : entries.Fits := Toml.parse?_fits document
  rw [ofEntries?] at read
  obtain ⟨pool, pool_read, read⟩ := Option.bind_eq_some_iff.mp read
  obtain ⟨log, -, same⟩ := Option.bind_eq_some_iff.mp read
  cases same
  cases member
  obtain ⟨node, node_fits, table_read⟩ := exists_of_optional? (fun _ => fits.of_lookup) pool_read
  exact poolTable?_fits node_fits table_read

end SettingsFile
end WorkerPool
