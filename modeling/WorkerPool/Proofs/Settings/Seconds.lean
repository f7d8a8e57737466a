import WorkerPool.Proofs.Duration.Spelling
import WorkerPool.Settings.Pool

/-!
# Seconds as a number and as a text

A table can give an expiry of whole seconds as a number or as a text. A text is read as a number of
milliseconds, which has to fit in a word, so it can spell a smaller number of seconds than a number can
be. Within what it can spell the two are the same.
-/

namespace WorkerPool

namespace Duration

open Decimal (countMax)

def Spelling.bare (n : Nat) : Spelling where
  signed := false
  digits := Nat.toDigits 10 n
  gap := []
  unit := none
  nonempty := Nat.toDigits_ne_nil
  numeral _ := Nat.isDigit_of_mem_toDigits (by decide) (by decide)
  blank := nofun

namespace Spelling

theorem number_bare (n : Nat) : (bare n).number = (toString n).toList := Nat.toList_repr.symm

theorem text_bare (n : Nat) : (bare n).text = (toString n).toList := by
  rw [text, number_bare]
  simp [bare, TimeUnit.ending]

theorem count_bare (n : Nat) : (bare n).count = n := Nat.ofDigitChars_ten_toDigits

end Spelling

theorem ofMillis_seconds (n : Nat) : ofMillis (n * 1000) = ofSeconds n :=
  congrArg Duration.mk (Nat.mul_assoc n 1000 1000000)

/-- A number in decimal has no blanks around it and no capitals in it. -/
theorem lower_trim_toString (n : Nat) :
    Text.lower (Text.trim (toString n).toList) = (toString n).toList := by
  have trimmed : Text.trim ((Spelling.bare n).number ++ []) = (Spelling.bare n).number :=
    (Spelling.bare n).trim_number
  rw [List.append_nil, Spelling.number_bare] at trimmed
  rw [trimmed]
  apply Text.lowerAfter_of_digits
  rw [← Spelling.number_bare]
  exact (Spelling.bare n).numeral

variable {n : Nat} {result : Except Error (Option Duration)}

theorem parse_toString (means : Means (Spelling.bare n).text result) : parse (toString n) = result := by
  have flush := (Text.flush_trim (toString n).toList).lower
  rw [lower_trim_toString, ← Spelling.text_bare] at flush
  have read := means.read flush
  rwa [Spelling.text_bare, ← lower_trim_toString] at read

theorem parse_seconds (positive : 0 < n) (bounded : n * 1000 ≤ countMax) :
    parse (toString n) = .ok (some (.ofSeconds n)) := by
  have means : Means (Spelling.bare n).text (.ok (some (.ofMillis (n * 1000)))) := by
    have readable : n ≤ countMax := Nat.le_trans (Nat.le_mul_of_pos_right n (by decide)) bounded
    have scaled : 0 < n * 1000 := Nat.mul_pos positive (by decide)
    have spelt := Means.length (Spelling.bare n)
    rw [Spelling.count_bare] at spelt
    exact spelt readable scaled bounded
  rw [parse_toString means, ofMillis_seconds]

theorem parse_seconds_of_long (readable : n ≤ countMax) (long : countMax < n * 1000) :
    parse (toString n) = .error (.outOfRange (toString n)) := by
  have means := Means.outOfRange (Spelling.bare n)
  rw [Spelling.count_bare] at means
  have read := parse_toString (means readable long)
  rwa [Spelling.text_bare, String.ofList_toList] at read

end Duration

namespace PoolSettings

open Decimal (countMax signedMax)

/-- The settings of a table depend on its expiry and on what its capacity comes to. -/
theorem ofTable_expire (table : PoolTable) (expire : ExpiryText) :
    ofTable (some { table with expire := some expire }) =
      ((required "pool.cap" table.cap).bind positiveCapacity).bind fun capacity =>
        (positiveExpiry expire).map fun expiry => { capacity, expiry, name := table.name.getD defaultName } := by
  simp only [ofTable, required, bind, Except.bind]
  cases table.cap with
  | none => rfl
  | some cap =>
    cases positiveCapacity cap with
    | error e => rfl
    | ok capacity => cases positiveExpiry expire <;> rfl

theorem capacity_ok_iff (cap : Option Int) :
    (∃ n, (required "pool.cap" cap).bind positiveCapacity = .ok n) ↔ ∃ n ∈ cap, 0 < n := by
  cases cap with
  | none => simp [required, Except.bind]
  | some cap =>
    by_cases positive : 0 < cap
    · simp [required, Except.bind, positiveCapacity, positive]
    · simp [required, Except.bind, positiveCapacity, positive]

variable {n : Nat}

theorem positiveExpiry_seconds (positive : 0 < n) : positiveExpiry (.seconds n) = .ok (.ofSeconds n) :=
  if_pos (Int.natCast_pos.mpr positive)

theorem positiveExpiry_spelt (positive : 0 < n) (bounded : n * 1000 ≤ countMax) :
    positiveExpiry (.text (toString n)) = .ok (.ofSeconds n) := by
  rw [positiveExpiry, Duration.parse_seconds positive bounded]

theorem positiveExpiry_long (readable : n ≤ countMax) (long : countMax < n * 1000) :
    positiveExpiry (.text (toString n)) =
      .error (.parse "pool.expire" (toString n) ("duration out of range: " ++ toString n)) := by
  rw [positiveExpiry, Duration.parse_seconds_of_long readable long]
  rfl

/-- Whole seconds are an expiry whenever they are positive. Spelt as a text they are the same one, as
long as they are no more milliseconds than a word holds; more are refused. -/
theorem seconds_agree (positive : 0 < n) (word : n ≤ signedMax) (table : PoolTable) :
    let whole := ofTable (some { table with expire := some (.seconds n) })
    let spelt := ofTable (some { table with expire := some (.text (toString n)) })
    ((∃ s, whole = .ok s) ↔ ∃ cap ∈ table.cap, 0 < cap) ∧
      (∀ s, whole = .ok s → s.expiry = .ofSeconds n) ∧
      (n * 1000 ≤ countMax → spelt = whole) ∧
      (countMax < n * 1000 → ∀ s, whole = .ok s →
        spelt = .error (.parse "pool.expire" (toString n) ("duration out of range: " ++ toString n))) := by
  intro whole spelt
  have readable : n ≤ countMax := Nat.le_trans word (by decide)
  have whole_eq : whole = _ := ofTable_expire table (.seconds n)
  have spelt_eq : spelt = _ := ofTable_expire table (.text (toString n))
  rw [positiveExpiry_seconds positive] at whole_eq
  rw [← capacity_ok_iff table.cap]
  cases capacity : (required "pool.cap" table.cap).bind positiveCapacity with
  | error e =>
    -- Without a capacity both fail before the expiry is looked at.
    rw [capacity] at whole_eq spelt_eq
    have whole_eq : whole = .error e := whole_eq
    have spelt_eq : spelt = .error e := spelt_eq
    have same : spelt = whole := spelt_eq.trans whole_eq.symm
    have failed : ∀ s, whole ≠ .ok s := by
      intro s loaded
      cases whole_eq.symm.trans loaded
    refine ⟨by simp [failed], ?_, fun _ => same, ?_⟩
    · intro s loaded
      exact absurd loaded (failed s)
    · intro _ s loaded
      exact absurd loaded (failed s)
  | ok c =>
    rw [capacity] at whole_eq spelt_eq
    have loaded : whole = .ok { capacity := c, expiry := .ofSeconds n, name := table.name.getD defaultName } :=
      whole_eq
    refine ⟨by simp [loaded], ?_, ?_, ?_⟩
    · intro s same
      cases loaded.symm.trans same
      rfl
    · intro bounded
      rw [positiveExpiry_spelt positive bounded] at spelt_eq
      exact spelt_eq.trans whole_eq.symm
    · intro long s _
      rw [positiveExpiry_long readable long] at spelt_eq
      exact spelt_eq

/-- The greatest number of seconds that can be spelt, and one more. -/
theorem seconds_agree_at_bound :
    let table : PoolTable := { cap := some 4, name := some "io" }
    0 < 18446744073709551 ∧ 18446744073709552 ≤ signedMax ∧
      18446744073709551 * 1000 ≤ countMax ∧ countMax < 18446744073709552 * 1000 ∧
      ofTable (some { table with expire := some (.text (toString 18446744073709551)) }) =
        ofTable (some { table with expire := some (.seconds 18446744073709551) }) ∧
      ∃ s, ofTable (some { table with expire := some (.seconds 18446744073709552) }) = .ok s ∧
        s.expiry = .ofSeconds 18446744073709552 ∧
        ofTable (some { table with expire := some (.text (toString 18446744073709552)) }) =
          .error (.parse "pool.expire" (toString 18446744073709552)
            ("duration out of range: " ++ toString 18446744073709552)) := by
  intro table
  have bounded : 18446744073709551 * 1000 ≤ countMax := by decide
  have long : countMax < 18446744073709552 * 1000 := by decide
  have word : 18446744073709552 ≤ signedMax := by decide
  obtain ⟨-, -, same, -⟩ := seconds_agree (n := 18446744073709551) (by decide) (by decide) table
  obtain ⟨loads, gives, -, refused⟩ := seconds_agree (n := 18446744073709552) (by decide) word table
  obtain ⟨s, loaded⟩ := loads.mpr ⟨4, rfl, by decide⟩
  exact ⟨by decide, word, bounded, long, same bounded, s, loaded, gives s loaded, refused long s loaded⟩

/-- A number of seconds that is an expiry as a number and none as a text. -/
theorem seconds_disagree :
    0 < 18446744073709552 ∧ 18446744073709552 ≤ signedMax ∧
      ofTable (some { cap := some 1, expire := some (.seconds 18446744073709552) }) =
        .ok { capacity := 1, expiry := .ofSeconds 18446744073709552 } ∧
      ofTable (some { cap := some 1, expire := some (.text (toString 18446744073709552)) }) =
        .error (.parse "pool.expire" "18446744073709552" "duration out of range: 18446744073709552") := by
  have refused := positiveExpiry_long (n := 18446744073709552) (by decide) (by decide)
  have spelt := ofTable_expire { cap := some 1 } (.text (toString 18446744073709552))
  rw [refused] at spelt
  exact ⟨by decide, by decide, rfl, spelt⟩

end PoolSettings
end WorkerPool
