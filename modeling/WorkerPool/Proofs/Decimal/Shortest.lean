import WorkerPool.Proofs.Decimal.Rounding
import Mathlib.Tactic.NormNum

/-!
# The shortest decimal reads back

The shortest decimal of a number lies in the interval around it, so it is rounded to the number. With
seventeen digits some decimal always does: between 10¹⁶ and 10¹⁷ the numbers of 53 bits are further
apart than the whole numbers are.
-/

namespace WorkerPool.Decimal

variable {m n : Nat} {q k : Int} {tie : Tie} {i : Interval}

namespace Interval

theorem scaled_eq (a : Nat) (q k : Int) :
    ((a * Nat.pow 2 (q - 2).toNat * Nat.pow 10 (-k).toNat : Nat) : ℚ) =
      a / 4 * 2 ^ q * (Nat.pow 2 (2 - q).toNat * Nat.pow 10 (-k).toNat : Nat) := by
  have power : (2 : ℚ) ^ (q - 2).toNat = 2 ^ q / 4 * 2 ^ (2 - q).toNat := by
    rw [← zpow_natCast, ← zpow_natCast, show (4 : ℚ) = 2 ^ (2 : Int) by norm_num,
      ← zpow_sub₀ two_ne_zero, ← zpow_add₀ two_ne_zero]
    congr 1
    omega
  push_cast [Nat.pow_eq]
  rw [power]
  ring

theorem grid_eq (n : Nat) (q k : Int) :
    ((n * Nat.pow 10 k.toNat * Nat.pow 2 (2 - q).toNat : Nat) : ℚ) =
      n * 10 ^ k * (Nat.pow 2 (2 - q).toNat * Nat.pow 10 (-k).toNat : Nat) := by
  have power : (10 : ℚ) ^ k.toNat = 10 ^ k * 10 ^ (-k).toNat := by
    rw [← zpow_natCast, ← zpow_natCast, ← zpow_add₀ (by norm_num)]
    congr 1
    omega
  push_cast [Nat.pow_eq]
  rw [power]
  ring

theorem scale_pos (q k : Int) :
    (0 : ℚ) < (Nat.pow 2 (2 - q).toNat * Nat.pow 10 (-k).toNat : Nat) := by
  push_cast [Nat.pow_eq]
  positivity

theorem scaled_le_iff (a n : Nat) (q k : Int) :
    a * Nat.pow 2 (q - 2).toNat * Nat.pow 10 (-k).toNat ≤
      n * Nat.pow 10 k.toNat * Nat.pow 2 (2 - q).toNat ↔ (a / 4 * 2 ^ q : ℚ) ≤ n * 10 ^ k := by
  rw [← Nat.cast_le (α := ℚ), scaled_eq, grid_eq]
  exact mul_le_mul_iff_left₀ (scale_pos q k)

theorem le_scaled_iff (a n : Nat) (q k : Int) :
    n * Nat.pow 10 k.toNat * Nat.pow 2 (2 - q).toNat ≤
      a * Nat.pow 2 (q - 2).toNat * Nat.pow 10 (-k).toNat ↔ (n * 10 ^ k : ℚ) ≤ a / 4 * 2 ^ q := by
  rw [← Nat.cast_le (α := ℚ), scaled_eq, grid_eq]
  exact mul_le_mul_iff_left₀ (scale_pos q k)

theorem low_eq (binary : IsBinary m q) :
    ((4 * m - if m == Nat.pow 2 52 && q != -1074 then 1 else 2 : Nat) : ℚ) / 4 * 2 ^ q =
      m * 2 ^ q - lowerShare m q * 2 ^ q := by
  have positive := binary.positive
  by_cases narrow : m = 2 ^ 52 ∧ q ≠ -1074
  · have cond : (m == Nat.pow 2 52 && q != -1074) = true := by
      rw [Bool.and_eq_true]
      exact ⟨beq_iff_eq.mpr narrow.1, bne_iff_ne.mpr narrow.2⟩
    rw [cond, if_pos rfl, lowerShare, if_pos narrow, Nat.cast_sub (by omega)]
    push_cast
    ring
  · have cond : (m == Nat.pow 2 52 && q != -1074) = false := by
      rw [← Bool.not_eq_true, Bool.and_eq_true]
      intro both
      exact narrow ⟨beq_iff_eq.mp both.1, bne_iff_ne.mp both.2⟩
    rw [cond, if_neg Bool.false_ne_true, lowerShare, if_neg narrow, Nat.cast_sub (by omega)]
    push_cast
    ring

theorem high_eq (m : Nat) (q : Int) :
    ((4 * m + 2 : Nat) : ℚ) / 4 * 2 ^ q = m * 2 ^ q + 1 / 2 * 2 ^ q := by
  push_cast
  ring

theorem admits_ofBinary (binary : IsBinary m q) :
    (ofBinary m q).admits n k = true ↔
      if Even m then
        m * 2 ^ q - lowerShare m q * 2 ^ q ≤ (n * 10 ^ k : ℚ) ∧ n * 10 ^ k ≤ (m * 2 ^ q + 1 / 2 * 2 ^ q : ℚ)
      else
        m * 2 ^ q - lowerShare m q * 2 ^ q < (n * 10 ^ k : ℚ) ∧ n * 10 ^ k < (m * 2 ^ q + 1 / 2 * 2 ^ q : ℚ) := by
  rw [← low_eq binary, ← high_eq, admits]
  by_cases even : m % 2 = 0
  · have closed : (ofBinary m q).closed = true := beq_iff_eq.mpr even
    rw [if_pos closed, if_pos (Nat.even_iff.mpr even), Bool.and_eq_true, decide_eq_true_eq,
      decide_eq_true_eq]
    exact and_congr (scaled_le_iff ..) (le_scaled_iff ..)
  · have opened : ¬ (ofBinary m q).closed = true := even ∘ beq_iff_eq.mp
    rw [if_neg opened, if_neg (even ∘ Nat.even_iff.mp), Bool.and_eq_true, decide_eq_true_eq,
      decide_eq_true_eq, ← not_le, ← not_le, ← not_le, ← not_le]
    exact and_congr (not_congr (le_scaled_iff ..)) (not_congr (scaled_le_iff ..))

/-- A decimal in the interval around a number is rounded to it. -/
theorem roundsTo_of_admits (binary : IsBinary m q) (inside : (ofBinary m q).admits n k = true) :
    RoundsTo (n * 10 ^ k) m q := by
  rw [admits_ofBinary binary] at inside
  split at inside
  · rename_i even
    exact roundsTo_of_between binary inside.1 inside.2 fun _ => even
  · refine roundsTo_of_between binary inside.1.le inside.2.le ?_
    rintro (edge | edge)
    · exact absurd edge inside.1.ne'
    · exact absurd edge inside.2.ne

theorem admits_of_lt (binary : IsBinary m q)
    (low : m * 2 ^ q - lowerShare m q * 2 ^ q < (n * 10 ^ k : ℚ))
    (high : n * 10 ^ k < (m * 2 ^ q + 1 / 2 * 2 ^ q : ℚ)) : (ofBinary m q).admits n k = true := by
  rw [admits_ofBinary binary]
  split
  · exact ⟨low.le, high.le⟩
  · exact ⟨low, high⟩

/-- The value lies between its two neighbours on a grid. -/
theorem neighbours (m : Nat) (q k : Int) :
    let n := (ofBinary m q).value * Nat.pow 10 (-k).toNat / ((ofBinary m q).denominator * Nat.pow 10 k.toNat)
    (n * 10 ^ k : ℚ) ≤ m * 2 ^ q ∧ (m * 2 ^ q : ℚ) < (n + 1 : Nat) * 10 ^ k := by
  intro n
  have value : (m * 2 ^ q : ℚ) = (4 * m : Nat) / 4 * 2 ^ q := by
    push_cast
    ring
  have positive : 0 < (ofBinary m q).denominator * Nat.pow 10 k.toNat :=
    Nat.mul_pos (Nat.pow_pos (by decide)) (Nat.pow_pos (by decide))
  rw [value, ← le_scaled_iff, ← not_le, ← le_scaled_iff, not_le]
  constructor
  · calc n * Nat.pow 10 k.toNat * (ofBinary m q).denominator
      _ = n * ((ofBinary m q).denominator * Nat.pow 10 k.toNat) := by ring
      _ ≤ (ofBinary m q).value * Nat.pow 10 (-k).toNat := Nat.div_mul_le_self ..
  · calc (ofBinary m q).value * Nat.pow 10 (-k).toNat
      _ < (ofBinary m q).denominator * Nat.pow 10 k.toNat * (n + 1) := Nat.lt_mul_div_succ _ positive
      _ = (n + 1) * Nat.pow 10 k.toNat * (ofBinary m q).denominator := by ring

theorem onGrid?_spec (h : i.onGrid? tie k = some n) : i.admits n k = true ∧ n ≠ 0 := by
  simp only [onGrid?, Bool.and_eq_true, bne_iff_ne] at h
  split at h
  · rename_i both
    split at h
    · obtain rfl := Option.some.inj h
      exact both.1
    · obtain rfl := Option.some.inj h
      exact ⟨both.2, Nat.succ_ne_zero _⟩
  · split at h
    · rename_i below
      obtain rfl := Option.some.inj h
      exact below
    · split at h
      · rename_i above
        obtain rfl := Option.some.inj h
        exact ⟨above, Nat.succ_ne_zero _⟩
      · cases h

theorem onGrid?_isSome (n : Nat)
    (eq : n = i.value * Nat.pow 10 (-k).toNat / (i.denominator * Nat.pow 10 k.toNat))
    (near : (i.admits n k = true ∧ n ≠ 0) ∨ i.admits (n + 1) k = true) : (i.onGrid? tie k).isSome := by
  simp only [onGrid?, ← eq, Bool.and_eq_true, bne_iff_ne]
  split
  · split <;> rfl
  · split
    · rfl
    · split
      · rfl
      · rename_i above
        exact absurd (near.resolve_left (by assumption)) above

/-- A grid on which the value has seventeen digits or more has a hit. -/
theorem onGrid?_of_fine (binary : IsBinary m q) (fine : (10 ^ 16 * 10 ^ k : ℚ) ≤ m * 2 ^ q) :
    ((ofBinary m q).onGrid? tie k).isSome := by
  have unit : (0 : ℚ) < 2 ^ q := by positivity
  have step : (0 : ℚ) < 10 ^ k := by positivity
  obtain ⟨below, above⟩ := neighbours m q k
  generalize eq : (ofBinary m q).value * Nat.pow 10 (-k).toNat /
    ((ofBinary m q).denominator * Nat.pow 10 k.toNat) = n at below above
  -- One of the neighbours is at most half a step away, and that is within the interval.
  have half : (10 ^ k / 2 : ℚ) < lowerShare m q * 2 ^ q ∧ (10 ^ k / 2 : ℚ) < 1 / 2 * 2 ^ q := by
    have bounded : (m : ℚ) < 2 ^ 53 := by exact_mod_cast binary.bounded
    have size : (m * 2 ^ q : ℚ) < 2 ^ 53 * 2 ^ q := mul_lt_mul_of_pos_right bounded unit
    have wide : (10 ^ k / 2 : ℚ) < 1 / 2 * 2 ^ q := by linarith
    refine ⟨?_, wide⟩
    rw [lowerShare]
    split
    · rename_i power
      rw [power.1] at fine
      push_cast at fine
      linarith
    · exact wide
  have nonzero : n ≠ 0 := by
    rintro rfl
    push_cast at above
    linarith
  apply onGrid?_isSome n eq.symm
  rcases le_or_gt (m * 2 ^ q - n * 10 ^ k : ℚ) (10 ^ k / 2) with close | far
  · exact .inl ⟨admits_of_lt binary (by linarith) (by linarith), nonzero⟩
  · refine .inr (admits_of_lt binary ?_ ?_)
    · linarith
    · push_cast
      linarith

/-- The first grid with a hit is found if there is one among those that are tried. -/
theorem firstHit_spec {fuel : Nat} (hit : ∃ j : Nat, j < fuel ∧ (i.onGrid? tie (k - j)).isSome) :
    i.admits (i.firstHit tie fuel k).1 (i.firstHit tie fuel k).2 = true ∧ (i.firstHit tie fuel k).1 ≠ 0 := by
  induction fuel generalizing k with
  | zero =>
    obtain ⟨j, none, -⟩ := hit
    exact absurd none (Nat.not_lt_zero j)
  | succ fuel ih =>
    rw [firstHit]
    cases found : i.onGrid? tie k with
    | some n => exact onGrid?_spec found
    | none =>
      apply ih
      obtain ⟨j, within, hit⟩ := hit
      cases j with
      | zero =>
        rw [Int.ofNat_zero, Int.sub_zero, found] at hit
        cases hit
      | succ j =>
        refine ⟨j, Nat.lt_of_succ_lt_succ within, ?_⟩
        rwa [show k - 1 - (j : Int) = k - (j + 1 : Nat) by omega]

theorem stepsTo_spec {d fuel n : Nat} (enough : d ≤ 10 ^ fuel * n) : d ≤ 10 ^ stepsTo d fuel n * n := by
  induction fuel generalizing n with
  | zero => exact enough
  | succ fuel ih =>
    rw [stepsTo]
    split
    · rename_i there
      rwa [pow_zero, one_mul]
    · rw [pow_succ, mul_assoc] at enough ⊢
      exact ih enough

theorem two_pow_le_ten_pow {a b : Nat} (le : a ≤ 3 * b) : 2 ^ a ≤ 10 ^ b :=
  calc 2 ^ a
    _ ≤ 2 ^ (3 * b) := Nat.pow_le_pow_right (by decide) le
    _ = (2 ^ 3) ^ b := pow_mul 2 3 b
    _ ≤ 10 ^ b := Nat.pow_le_pow_left (by decide) b

theorem denominator_le (binary : IsBinary m q) :
    (ofBinary m q).denominator ≤ 10 ^ 400 * (ofBinary m q).value := by
  have positive : 0 < (ofBinary m q).value :=
    Nat.mul_pos (Nat.mul_pos (by decide) binary.positive) (Nat.pow_pos (by decide))
  have few : (2 - q).toNat ≤ 3 * 400 := by
    have := binary.least
    omega
  exact Nat.le_trans (two_pow_le_ten_pow few) (Nat.le_mul_of_pos_right _ positive)

theorem pow_length_toDigits_le (positive : 0 < n) : 10 ^ ((Nat.toDigits 10 n).length - 1) ≤ n := by
  rcases Nat.eq_zero_or_pos ((Nat.toDigits 10 n).length - 1) with one | more
  · rw [one]
    exact positive
  · have some : 0 < (Nat.toDigits 10 n).length := Nat.length_toDigits_pos
    refine Nat.le_of_not_lt fun small => ?_
    have short := (Nat.length_toDigits_le_iff (by decide) more).mpr small
    omega

theorem pow_magnitude_le (binary : IsBinary m q) : (10 ^ (ofBinary m q).magnitude : ℚ) ≤ m * 2 ^ q := by
  rw [magnitude]
  split
  · rename_i large
    have positive : 0 < (ofBinary m q).value / (ofBinary m q).denominator :=
      Nat.div_pos large (Nat.pow_pos (by decide))
    have some : 0 < (Nat.toDigits 10 ((ofBinary m q).value / (ofBinary m q).denominator)).length :=
      Nat.length_toDigits_pos
    have whole := (neighbours m q 0).1
    have digits := pow_length_toDigits_le positive
    generalize (Nat.toDigits 10 ((ofBinary m q).value / (ofBinary m q).denominator)).length = length
      at digits some ⊢
    simp only [Int.neg_zero, Int.toNat_zero, Nat.pow_eq, pow_zero, mul_one, zpow_zero] at whole
    calc (10 ^ ((length : Int) - 1) : ℚ)
      _ = (10 ^ (length - 1) : Nat) := by
        rw [← Nat.cast_pred some, zpow_natCast]
        push_cast
        rfl
      _ ≤ ((ofBinary m q).value / (ofBinary m q).denominator : Nat) := by exact_mod_cast digits
      _ ≤ m * 2 ^ q := whole
  · have steps := stepsTo_spec (denominator_le binary)
    generalize stepsTo (ofBinary m q).denominator 400 (ofBinary m q).value = s at steps ⊢
    have reached : 1 * Nat.pow 10 (-(s : Int)).toNat * Nat.pow 2 (2 - q).toNat ≤
        4 * m * Nat.pow 2 (q - 2).toNat * Nat.pow 10 (- -(s : Int)).toNat := by
      rw [Int.toNat_neg_natCast, Int.neg_neg, Int.toNat_natCast, mul_comm _ (Nat.pow 10 s)]
      change 1 * 10 ^ 0 * (ofBinary m q).denominator ≤ 10 ^ s * (ofBinary m q).value
      rwa [pow_zero, one_mul, one_mul]
    rw [le_scaled_iff] at reached
    calc (10 ^ (-(s : Int)) : ℚ)
      _ = (1 : Nat) * 10 ^ (-(s : Int)) := by rw [Nat.cast_one, one_mul]
      _ ≤ (4 * m : Nat) / 4 * 2 ^ q := reached
      _ = m * 2 ^ q := by
        push_cast
        ring

/-- Within seventeen digits there is a decimal in the interval. -/
theorem firstHit_magnitude (binary : IsBinary m q) (tie : Tie) :
    (ofBinary m q).admits ((ofBinary m q).firstHit tie 17 (ofBinary m q).magnitude).1
        ((ofBinary m q).firstHit tie 17 (ofBinary m q).magnitude).2 = true ∧
      ((ofBinary m q).firstHit tie 17 (ofBinary m q).magnitude).1 ≠ 0 := by
  apply firstHit_spec
  refine ⟨16, by decide, onGrid?_of_fine binary ?_⟩
  calc (10 ^ 16 * 10 ^ ((ofBinary m q).magnitude - (16 : Nat)) : ℚ)
    _ = 10 ^ (ofBinary m q).magnitude := by
      rw [← zpow_natCast, ← zpow_add₀ (by norm_num)]
      congr 1
      omega
    _ ≤ m * 2 ^ q := pow_magnitude_le binary

end Interval

theorem head?_toDigits (positive : 0 < n) : (Nat.toDigits 10 n).head? ≠ some '0' := by
  induction n using Nat.strongRecOn with
  | ind n ih =>
    rw [Nat.toDigits_eq_if (by decide)]
    split
    · rw [List.head?_cons, Option.some_inj.ne, Ne, Nat.digitChar_eq_zero]
      exact positive.ne'
    · rename_i large
      rw [List.head?_append_of_ne_nil _ Nat.toDigits_ne_nil]
      exact ih (n / 10) (by omega) (by omega)

/-- Zeros at the end are dropped from a row of digits. -/
theorem exists_stripped (digits : List Char) :
    ∃ zeros, digits = (digits.reverse.dropWhile (· == '0')).reverse ++ List.replicate zeros '0' := by
  have all : ∀ c ∈ digits.reverse.takeWhile (· == '0'), c = '0' :=
    fun c member => beq_iff_eq.mp (List.all_eq_true.mp List.all_takeWhile c member)
  have whole := congrArg List.reverse
    (digits.reverse.takeWhile_append_dropWhile (p := (· == '0')))
  rw [List.reverse_append, List.reverse_reverse, List.eq_replicate_of_mem all,
    List.reverse_replicate] at whole
  exact ⟨_, whole.symm⟩

namespace Digits

structure Proper (d : Digits) : Prop where
  digits : ∀ c ∈ d.digits, c.isDigit = true
  nonempty : d.digits ≠ []
  leading : d.digits.head? ≠ some '0'

def value (d : Digits) : ℚ := Nat.ofDigitChars 10 d.digits 0 * 10 ^ (d.point - d.digits.length)

end Digits

/-- The digits of the shortest decimal are those of the hit without the zeros at the end. -/
theorem Interval.exists_shortest (i : Interval) (tie : Tie) : ∃ zeros : Nat,
    Nat.toDigits 10 (i.firstHit tie 17 i.magnitude).1 =
      (i.shortest tie).digits ++ List.replicate zeros '0' ∧
    (i.shortest tie).point =
      (i.firstHit tie 17 i.magnitude).2 + ((i.shortest tie).digits.length + zeros : Nat) := by
  obtain ⟨zeros, whole⟩ := exists_stripped (Nat.toDigits 10 (i.firstHit tie 17 i.magnitude).1)
  refine ⟨zeros, whole, ?_⟩
  have length := congrArg List.length whole
  rw [List.length_append, List.length_replicate] at length
  exact congrArg (fun length : Nat => (i.firstHit tie 17 i.magnitude).2 + (length : Int)) length

theorem shortest_proper (binary : IsBinary m q) (tie : Tie) :
    ((Interval.ofBinary m q).shortest tie).Proper := by
  obtain ⟨-, nonzero⟩ := Interval.firstHit_magnitude binary tie
  obtain ⟨zeros, whole, -⟩ := (Interval.ofBinary m q).exists_shortest tie
  have leading := head?_toDigits (Nat.pos_of_ne_zero nonzero)
  have nonempty : ((Interval.ofBinary m q).shortest tie).digits ≠ [] := by
    intro empty
    rw [whole, empty, List.nil_append] at leading
    cases zeros with
    | zero => exact Nat.toDigits_ne_nil (whole.trans (by rw [empty]; rfl))
    | succ zeros => exact leading rfl
  rw [whole, List.head?_append_of_ne_nil _ nonempty] at leading
  refine ⟨fun c member => ?_, nonempty, leading⟩
  apply Nat.isDigit_of_mem_toDigits (b := 10) (by decide) (by decide)
  rw [whole]
  exact List.mem_append_left _ member

/-- The shortest decimal is rounded to the number. -/
theorem roundsTo_shortest (binary : IsBinary m q) (tie : Tie) :
    RoundsTo ((Interval.ofBinary m q).shortest tie).value m q := by
  obtain ⟨inside, -⟩ := Interval.firstHit_magnitude binary tie
  obtain ⟨zeros, whole, point⟩ := (Interval.ofBinary m q).exists_shortest tie
  have spelt := congrArg (Nat.ofDigitChars 10 · 0) whole
  simp only [Nat.ofDigitChars_ten_toDigits, Nat.ofDigitChars_append, Nat.ofDigitChars_replicate_zero] at spelt
  have rounds := Interval.roundsTo_of_admits binary inside
  rw [spelt] at rounds
  have same : ((Interval.ofBinary m q).shortest tie).value =
      (10 ^ zeros * Nat.ofDigitChars 10 ((Interval.ofBinary m q).shortest tie).digits 0 : Nat) *
        10 ^ ((Interval.ofBinary m q).firstHit tie 17 (Interval.ofBinary m q).magnitude).2 := by
    rw [Digits.value, point, Nat.cast_add, add_sub_assoc, add_sub_cancel_left, zpow_add₀ (by norm_num),
      zpow_natCast]
    push_cast
    ring
  rw [same]
  exact rounds

end WorkerPool.Decimal
