import Mathlib.Algebra.Order.Field.Power
import Mathlib.Algebra.Order.Field.Rat
import Mathlib.Data.Nat.Cast.Order.Field
import Mathlib.Tactic.Linarith
import Mathlib.Tactic.NormNum
import Mathlib.Tactic.Positivity
import Mathlib.Tactic.Ring
import WorkerPool.Decimal.Shortest

/-!
# Rounding to binary64

A rational is rounded to the nearest number with a significand of 53 bits, and halfway between two of
them to the one with the even significand. The exponent has a least value and no greatest: a rational
that is rounded to a number in range is not out of range. Around each number lies the interval of the
rationals that are rounded to it, which reaches half way to the next number on either side. Below a
power of two the next number is half as far away as above it.
-/

namespace WorkerPool.Decimal

/-- Whether a rational is rounded to `m · 2 ^ q`. -/
def RoundsTo (x : ℚ) (m : Nat) (q : Int) : Prop :=
  ∀ (n : Nat) (p : Int), n < 2 ^ 53 → -1074 ≤ p → (n : ℚ) * 2 ^ p ≠ m * 2 ^ q →
    |x - m * 2 ^ q| < |x - n * 2 ^ p| ∨ |x - m * 2 ^ q| = |x - n * 2 ^ p| ∧ Even m

/-- Whether `m · 2 ^ q` is how a binary64 number other than zero is given: the significand has 53 bits,
unless the exponent is the least. -/
structure IsBinary (m : Nat) (q : Int) : Prop where
  positive : 0 < m
  bounded : m < 2 ^ 53
  least : -1074 ≤ q
  greatest : q ≤ 971
  full : 2 ^ 52 ≤ m ∨ q = -1074

/-- What share of the distance to the next number above lies half way to the next number below. -/
def lowerShare (m : Nat) (q : Int) : ℚ := if m = 2 ^ 52 ∧ q ≠ -1074 then 1 / 4 else 1 / 2

variable {m n : Nat} {p q : Int} {x v y d : ℚ}

theorem lowerShare_pos (m : Nat) (q : Int) : 0 < lowerShare m q := by
  rw [lowerShare]
  split <;> norm_num

theorem scale_le (le : q ≤ p) : (n : ℚ) * 2 ^ p = (n * 2 ^ (p - q).toNat : Nat) * 2 ^ q := by
  have split : p = ((p - q).toNat : Int) + q := by omega
  nth_rewrite 1 [split]
  rw [zpow_add₀ two_ne_zero, zpow_natCast]
  push_cast
  ring

/-- A number with a smaller exponent lies below, by more than what the significand can make up for. -/
theorem scale_lt (bounded : n < 2 ^ 53) (lt : p < q) : (n : ℚ) * 2 ^ p ≤ (2 ^ 52 - 1 / 2) * 2 ^ q := by
  have le : p ≤ q - 1 := by omega
  have power : (2 : ℚ) ^ p ≤ 2 ^ q / 2 := by
    have := zpow_le_zpow_right₀ (one_le_two (α := ℚ)) le
    rwa [zpow_sub_one₀ two_ne_zero] at this
  have few : (n : ℚ) ≤ 2 ^ 53 - 1 := by
    have : n ≤ 2 ^ 53 - 1 := by omega
    calc (n : ℚ) ≤ ((2 ^ 53 - 1 : Nat) : ℚ) := by exact_mod_cast this
      _ = 2 ^ 53 - 1 := by norm_num
  calc (n : ℚ) * 2 ^ p
    _ ≤ (2 ^ 53 - 1) * (2 ^ q / 2) := mul_le_mul few power (by positivity) (by norm_num)
    _ = (2 ^ 52 - 1 / 2) * 2 ^ q := by ring

theorem next_above (binary : IsBinary m q) (bounded : n < 2 ^ 53) (least : -1074 ≤ p)
    (above : (m : ℚ) * 2 ^ q < n * 2 ^ p) : (m : ℚ) * 2 ^ q + 2 * (1 / 2 * 2 ^ q) ≤ n * 2 ^ p := by
  have unit : (0 : ℚ) < 2 ^ q := by positivity
  rcases lt_or_ge p q with finer | coarser
  · have full : (2 ^ 52 : ℚ) ≤ m := by
      have := binary.full.resolve_right (by omega)
      exact_mod_cast this
    have below := scale_lt bounded finer
    nlinarith
  · rw [scale_le coarser] at above ⊢
    have more : m + 1 ≤ n * 2 ^ (p - q).toNat := by
      have := lt_of_mul_lt_mul_right above unit.le
      exact_mod_cast this
    have : (m + 1 : ℚ) ≤ (n * 2 ^ (p - q).toNat : Nat) := by exact_mod_cast more
    nlinarith

theorem next_below (binary : IsBinary m q) (bounded : n < 2 ^ 53) (least : -1074 ≤ p)
    (below : (n : ℚ) * 2 ^ p < m * 2 ^ q) :
    (n : ℚ) * 2 ^ p + 2 * (lowerShare m q * 2 ^ q) ≤ m * 2 ^ q := by
  have unit : (0 : ℚ) < 2 ^ q := by positivity
  rcases lt_or_ge p q with finer | coarser
  · have full := binary.full.resolve_right (by omega)
    have low := scale_lt bounded finer
    rw [lowerShare]
    split
    · rename_i power
      rw [power.1]
      push_cast
      linarith
    · rename_i other
      have more : 2 ^ 52 + 1 ≤ m := by omega
      have : (2 ^ 52 + 1 : ℚ) ≤ m := by exact_mod_cast more
      nlinarith
  · have share : lowerShare m q ≤ 1 / 2 := by
      rw [lowerShare]
      split <;> norm_num
    rw [scale_le coarser] at below ⊢
    have fewer : n * 2 ^ (p - q).toNat + 1 ≤ m := by
      have := lt_of_mul_lt_mul_right below unit.le
      exact_mod_cast this
    have : ((n * 2 ^ (p - q).toNat : Nat) + 1 : ℚ) ≤ m := by exact_mod_cast fewer
    nlinarith

/-- Up to half way to a number on the other side the first of two numbers is not the farther one. -/
theorem nearer_of_le (positive : 0 < d) (beyond : v + 2 * d ≤ y) (within : x ≤ v + d) :
    |x - v| < |x - y| ∨ |x - v| = |x - y| ∧ x = v + d := by
  have far : |x - y| = y - x := by rw [abs_sub_comm, abs_of_nonneg (by linarith)]
  rw [far]
  rcases le_or_gt v x with after | before
  · rw [abs_of_nonneg (by linarith)]
    rcases within.lt_or_eq with inside | edge
    · exact .inl (by linarith)
    · rcases beyond.lt_or_eq with farther | next
      · exact .inl (by linarith)
      · exact .inr ⟨by linarith, edge⟩
  · rw [abs_of_nonpos (by linarith)]
    exact .inl (by linarith)

theorem nearer_of_ge (positive : 0 < d) (beyond : y + 2 * d ≤ v) (within : v - d ≤ x) :
    |x - v| < |x - y| ∨ |x - v| = |x - y| ∧ x = v - d := by
  have mirrored := nearer_of_le (x := -x) (v := -v) (y := -y) positive (by linarith) (by linarith)
  have mirror (a b : ℚ) : |-a - -b| = |a - b| := by rw [neg_sub_neg, abs_sub_comm]
  rw [mirror, mirror] at mirrored
  exact mirrored.imp_right fun ⟨same, edge⟩ => ⟨same, by linarith⟩

/-- The rationals between the bounds are rounded to the number, and the bounds themselves if its
significand is even. -/
theorem roundsTo_of_between (binary : IsBinary m q)
    (low : m * 2 ^ q - lowerShare m q * 2 ^ q ≤ x) (high : x ≤ m * 2 ^ q + 1 / 2 * 2 ^ q)
    (edges : x = m * 2 ^ q - lowerShare m q * 2 ^ q ∨ x = m * 2 ^ q + 1 / 2 * 2 ^ q → Even m) :
    RoundsTo x m q := by
  intro n p bounded least differs
  have unit : (0 : ℚ) < 2 ^ q := by positivity
  rcases differs.lt_or_gt with below | above
  · have next := next_below binary bounded least below
    have share := mul_pos (lowerShare_pos m q) unit
    rcases nearer_of_ge share next low with near | ⟨same, edge⟩
    · exact .inl near
    · exact .inr ⟨same, edges (.inl edge)⟩
  · have next := next_above binary bounded least above
    rcases nearer_of_le (by positivity) next high with near | ⟨same, edge⟩
    · exact .inl near
    · exact .inr ⟨same, edges (.inr edge)⟩

/-- The bits of a number that is finite and not zero give it in this way. -/
theorem isBinary_of_ofBits {bits : Nat} {negative : Bool}
    (finite : Number.ofBits bits = .finite negative m q) : IsBinary m q := by
  have exponent : bits / Nat.pow 2 52 % 2048 < 2048 := Nat.mod_lt _ (by decide)
  have fraction : bits % Nat.pow 2 52 < 2 ^ 52 := Nat.mod_lt _ (by decide)
  simp only [Number.ofBits, beq_iff_eq] at finite
  split at finite
  · split at finite <;> cases finite
  · split at finite
    · split at finite
      · cases finite
      · obtain ⟨-, rfl, rfl⟩ := Number.finite.inj finite
        exact ⟨by omega, by omega, by omega, by omega, .inr rfl⟩
    · obtain ⟨-, rfl, rfl⟩ := Number.finite.inj finite
      have power : Nat.pow 2 52 = 2 ^ 52 := rfl
      exact ⟨by omega, by omega, by omega, by omega, .inl (by omega)⟩

end WorkerPool.Decimal
