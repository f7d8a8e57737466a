import WorkerPool.Decimal.Notation
import WorkerPool.Decimal.Reading
import WorkerPool.Proofs.Decimal.Shortest

/-!
# Numerals

A numeral has a whole part without needless zeros in front and may have a sign, a fraction and an
exponent. It stands for one decimal, which a reader finds. The numerals written for whole numbers stand
for these numbers, and those written for numbers of binary64 for decimals that are rounded to them.
-/

namespace WorkerPool.Decimal

/-- The decimal `mantissa · 10 ^ exponent`, with a sign that zero can have as well. -/
structure Literal where
  negative : Bool
  mantissa : Nat
  exponent : Int
  deriving DecidableEq, Repr

namespace Literal

def magnitude (l : Literal) : ℚ := l.mantissa * 10 ^ l.exponent

def IsInt (l : Literal) (n : Int) : Prop := (if l.negative then -l.magnitude else l.magnitude) = n

def Rounds (l : Literal) : Number → Prop
  | .nan | .infinite _ => False
  | .zero negative => l.negative = negative ∧ l.mantissa = 0
  | .finite negative m q => l.negative = negative ∧ RoundsTo l.magnitude m q

def isWhole (digits : List Char) : Bool :=
  !digits.isEmpty && (digits.head? != some '0' || digits.length == 1)

/-- The fraction behind a point, and the rest. A point without digits behind it is none. -/
def fraction? : List Char → Option (List Char × List Char)
  | '.' :: after =>
    if (after.takeWhile Char.isDigit).isEmpty then none
    else some (after.takeWhile Char.isDigit, after.dropWhile Char.isDigit)
  | rest => some ([], rest)

def unsigned? (negative : Bool) (text : List Char) : Option Literal :=
  let whole := text.takeWhile Char.isDigit
  if isWhole whole then
    (fraction? (text.dropWhile Char.isDigit)).bind fun (fraction, rest) =>
      (readExponent? rest).map fun e =>
        ⟨negative, digitsValue (whole ++ fraction), e - fraction.length⟩
  else none

def parse? : List Char → Option Literal
  | '-' :: rest => unsigned? true rest
  | text => unsigned? false text

end Literal

structure Numeral where
  negative : Bool := false
  whole : List Char
  fraction : List Char := []
  exponent : Option Int := none

namespace Numeral

def sign (negative : Bool) : List Char := if negative then ['-'] else []

/-- An exponent always has a sign. -/
def power (e : Int) : List Char :=
  'e' :: if 0 ≤ e then '+' :: Nat.toDigits 10 e.toNat else '-' :: Nat.toDigits 10 (-e).toNat

def pointed (fraction : List Char) : List Char := if fraction.isEmpty then [] else '.' :: fraction

def text (n : Numeral) : List Char :=
  sign n.negative ++ (n.whole ++ (pointed n.fraction ++ n.exponent.elim [] power))

def literal (n : Numeral) : Literal :=
  ⟨n.negative, Nat.ofDigitChars 10 (n.whole ++ n.fraction) 0, n.exponent.getD 0 - n.fraction.length⟩

structure Proper (n : Numeral) : Prop where
  whole : Literal.isWhole n.whole = true
  digits : ∀ c ∈ n.whole, c.isDigit = true
  fraction : ∀ c ∈ n.fraction, c.isDigit = true

end Numeral

variable {n : Numeral} {run rest : List Char} {c : Char}

theorem digitsValue_eq (digits : List Char) : digitsValue digits = Nat.ofDigitChars 10 digits 0 :=
  Nat.ofDigitChars_eq_foldl.symm

/-- Where a run of digits ends is told by the text. -/
theorem split_digits (all : ∀ c ∈ run, c.isDigit = true) (stops : ∀ c ∈ rest.head?, c.isDigit = false) :
    (run ++ rest).takeWhile Char.isDigit = run ∧ (run ++ rest).dropWhile Char.isDigit = rest := by
  rw [List.takeWhile_append_of_pos all, List.dropWhile_append_of_pos all]
  cases rest with
  | nil => simp
  | cons c rest => simp [stops c rfl]

theorem readExponent?_power (e : Int) : readExponent? (Numeral.power e) = some e := by
  have digits (n : Nat) : (Nat.toDigits 10 n).all Char.isDigit = true :=
    List.all_eq_true.mpr fun c => Nat.isDigit_of_mem_toDigits (by decide) (by decide)
  have some (n : Nat) : (Nat.toDigits 10 n).isEmpty = false := by
    rw [List.isEmpty_eq_false_iff]
    exact Nat.toDigits_ne_nil
  have value (n : Nat) : digitsValue (Nat.toDigits 10 n) = n := by
    rw [digitsValue_eq, Nat.ofDigitChars_ten_toDigits]
  unfold Numeral.power
  split
  · simp only [readExponent?, digits, some, value]
    simp
    omega
  · simp only [readExponent?, digits, some, value]
    simp
    omega

theorem readExponent?_tail (exponent : Option Int) :
    readExponent? (exponent.elim [] Numeral.power) = some (exponent.getD 0) := by
  cases exponent with
  | none => rfl
  | some e => exact readExponent?_power e

theorem head_tail (exponent : Option Int) : ∀ c ∈ (exponent.elim [] Numeral.power).head?, c = 'e' := by
  cases exponent with
  | none => exact nofun
  | some e =>
    intro c first
    exact (Option.some.inj first).symm

theorem fraction?_pointed {fraction tail : List Char} (digits : ∀ c ∈ fraction, c.isDigit = true)
    (head : ∀ c ∈ tail.head?, c = 'e') :
    Literal.fraction? (Numeral.pointed fraction ++ tail) = some (fraction, tail) := by
  have stops : ∀ c ∈ tail.head?, c.isDigit = false := fun c first => by
    rw [head c first]
    rfl
  cases fraction with
  | nil =>
    cases tail with
    | nil => rfl
    | cons c tail =>
      rw [head c rfl]
      rfl
  | cons d fraction =>
    obtain ⟨run, rest⟩ := split_digits digits stops
    change Literal.fraction? ('.' :: (d :: fraction ++ tail)) = _
    rw [Literal.fraction?, run, rest]
    rfl

theorem unsigned?_text (proper : n.Proper) :
    Literal.unsigned? n.negative
      (n.whole ++ (Numeral.pointed n.fraction ++ n.exponent.elim [] Numeral.power)) =
      some n.literal := by
  have head := head_tail n.exponent
  have stops : ∀ c ∈ (Numeral.pointed n.fraction ++ n.exponent.elim [] Numeral.power).head?,
      c.isDigit = false := by
    intro c first
    cases fraction : n.fraction with
    | nil =>
      rw [fraction] at first
      rw [head c first]
      rfl
    | cons d others =>
      rw [fraction] at first
      rw [← Option.some.inj first]
      rfl
  obtain ⟨run, rest⟩ := split_digits proper.digits stops
  simp only [Literal.unsigned?, run, rest, proper.whole, if_true, fraction?_pointed proper.fraction head,
    Option.bind_some, readExponent?_tail, Option.map_some, digitsValue_eq]
  rfl

theorem exists_whole (whole : Literal.isWhole run = true) : ∃ c others, run = c :: others := by
  cases run with
  | nil => cases whole
  | cons c others => exact ⟨c, others, rfl⟩

/-- A reader finds the decimal that a numeral stands for. -/
theorem parse?_text (proper : n.Proper) : Literal.parse? n.text = some n.literal := by
  have read := unsigned?_text proper
  cases sign : n.negative with
  | true =>
    rw [sign] at read
    rw [Numeral.text, sign]
    exact read
  | false =>
    obtain ⟨c, others, whole⟩ := exists_whole proper.whole
    have digit : c.isDigit = true := proper.digits c (whole ▸ List.mem_cons_self)
    have text : n.text = n.whole ++ (Numeral.pointed n.fraction ++ n.exponent.elim [] Numeral.power) := by
      rw [Numeral.text, sign]
      rfl
    rw [text, Literal.parse?.eq_def]
    split
    · rename_i rest minus
      rw [whole, List.cons_append] at minus
      obtain ⟨rfl, -⟩ := List.cons.inj minus
      cases digit
    · rwa [sign] at read

def isNumeric (c : Char) : Bool := c.isDigit || ['-', '+', '.', 'e', 'E'].contains c

theorem isNumeric_of_isDigit (digit : c.isDigit = true) : isNumeric c = true := by
  rw [isNumeric, digit, Bool.true_or]

theorem isNumeric_of_mem_power {e : Int} (member : c ∈ Numeral.power e) : isNumeric c = true := by
  have digits {n : Nat} (member : c ∈ Nat.toDigits 10 n) : isNumeric c = true :=
    isNumeric_of_isDigit (Nat.isDigit_of_mem_toDigits (by decide) (by decide) member)
  have signed {sign : Char} {n : Nat} (numeric : isNumeric sign = true)
      (member : c ∈ 'e' :: sign :: Nat.toDigits 10 n) : isNumeric c = true := by
    rcases List.mem_cons.mp member with rfl | member
    · rfl
    · rcases List.mem_cons.mp member with rfl | member
      · exact numeric
      · exact digits member
  unfold Numeral.power at member
  split at member
  · exact signed rfl member
  · exact signed rfl member

theorem isNumeric_of_mem_text (proper : n.Proper) (member : c ∈ n.text) : isNumeric c = true := by
  rcases List.mem_append.mp member with sign | member
  · cases negative : n.negative with
    | true =>
      rw [negative] at sign
      rw [List.mem_singleton.mp sign]
      rfl
    | false =>
      rw [negative] at sign
      cases sign
  · rcases List.mem_append.mp member with whole | member
    · exact isNumeric_of_isDigit (proper.digits c whole)
    · rcases List.mem_append.mp member with fraction | exponent
      · unfold Numeral.pointed at fraction
        split at fraction
        · cases fraction
        · rcases List.mem_cons.mp fraction with rfl | fraction
          · rfl
          · exact isNumeric_of_isDigit (proper.fraction c fraction)
      · cases e : n.exponent with
        | none =>
          rw [e] at exponent
          cases exponent
        | some e' =>
          rw [e] at exponent
          exact isNumeric_of_mem_power exponent

theorem isWhole_of_head? (nonempty : run ≠ []) (leading : run.head? ≠ some '0') :
    Literal.isWhole run = true := by
  simp [Literal.isWhole, nonempty, leading]

def Numeral.ofInt (n : Int) : Numeral := { negative := n < 0, whole := Nat.toDigits 10 n.natAbs }

theorem ofInt_proper (n : Int) : (Numeral.ofInt n).Proper := by
  refine ⟨?_, fun c => Nat.isDigit_of_mem_toDigits (by decide) (by decide), nofun⟩
  rcases Nat.eq_zero_or_pos n.natAbs with zero | positive
  · rw [Numeral.ofInt, zero, Nat.toDigits_zero]
    rfl
  · exact isWhole_of_head? Nat.toDigits_ne_nil (head?_toDigits positive)

theorem text_ofInt (n : Int) : (Numeral.ofInt n).text = (toString n).toList := by
  rw [Int.toString_eq_repr, Int.repr_eq_if]
  split
  · rename_i positive
    have sign : decide (n < 0) = false := decide_eq_false (not_lt.mpr positive)
    rw [Numeral.text, Numeral.ofInt, sign, Nat.toList_repr, show n.toNat = n.natAbs by omega]
    simp [Numeral.sign, Numeral.pointed]
  · rename_i negative
    have sign : decide (n < 0) = true := decide_eq_true (not_le.mp negative)
    rw [Numeral.text, Numeral.ofInt, sign, String.toList_append, Nat.toList_repr,
      show (-n).toNat = n.natAbs by omega]
    simp [Numeral.sign, Numeral.pointed]

/-- What is written for a whole number stands for it. -/
theorem literal_ofInt (n : Int) : (Numeral.ofInt n).literal.IsInt n := by
  have spelt : (Numeral.ofInt n).literal = ⟨n < 0, n.natAbs, 0⟩ := by
    simp [Numeral.literal, Numeral.ofInt, Nat.ofDigitChars_ten_toDigits]
  rw [spelt, Literal.IsInt, Literal.magnitude, zpow_zero, mul_one, Nat.cast_natAbs]
  rcases lt_or_ge n 0 with negative | positive
  · rw [decide_eq_true negative, if_pos rfl, abs_of_neg negative]
    push_cast
    ring
  · rw [decide_eq_false (not_lt.mpr positive), if_neg Bool.false_ne_true, abs_of_nonneg positive]

namespace Numeral

/-- The decimal without an exponent, with at least one digit behind the point. -/
def spread (negative : Bool) (d : Digits) : Numeral :=
  if d.point ≤ 0 then
    { negative, whole := ['0'], fraction := zeros (-d.point).toNat ++ d.digits }
  else
    { negative
      whole := d.digits.take d.point.toNat ++ zeros (d.point.toNat - d.digits.length)
      fraction := if d.digits.length ≤ d.point.toNat then ['0'] else d.digits.drop d.point.toNat }

def scientific (negative : Bool) (d : Digits) : Numeral :=
  { negative, whole := d.digits.take 1, fraction := d.digits.drop 1, exponent := some (d.point - 1) }

variable {d : Digits}

theorem text_spread (nonempty : d.digits ≠ []) (negative : Bool) :
    (spread negative d).text = sign negative ++ Notation.json.spread d := by
  unfold spread Notation.spread
  split
  · simp [text, pointed, nonempty]
  · split
    · rename_i short
      have none : d.digits.drop d.point.toNat = [] := List.drop_eq_nil_of_le short
      simp [text, pointed, none, Notation.fraction, Notation.json]
    · rename_i long
      have some : d.digits.drop d.point.toNat ≠ [] := long ∘ List.drop_eq_nil_iff.mp
      simp [text, pointed, some, Notation.fraction]

theorem power_eq (e : Int) :
    power e = 'e' :: (if 0 ≤ e && Notation.json.plusSign then ['+'] else []) ++ (toString e).toList := by
  rw [Int.toString_eq_repr, Int.repr_eq_if, power, show Notation.json.plusSign = true from rfl]
  split
  · rename_i positive
    simp [positive, Nat.toList_repr]
  · rename_i negative
    simp [negative, Nat.toList_repr]

theorem text_scientific (negative : Bool) (d : Digits) :
    (scientific negative d).text = sign negative ++ Notation.json.scientific d := by
  simp only [text, scientific, Option.elim_some, power_eq, Notation.scientific, pointed,
    List.append_assoc, List.cons_append]
  rfl

theorem zeros_isDigit {n : Nat} (member : c ∈ zeros n) : c.isDigit = true := by
  rw [List.eq_of_mem_replicate member]
  rfl

theorem spread_proper (proper : d.Proper) (negative : Bool) : (spread negative d).Proper := by
  unfold spread
  split
  · refine ⟨rfl, fun c => zeros_isDigit (n := 1), fun c member => ?_⟩
    exact (List.mem_append.mp member).elim zeros_isDigit (proper.digits c)
  · rename_i point
    have some : d.digits.take d.point.toNat ≠ [] := by
      rw [Ne, List.take_eq_nil_iff]
      exact fun empty => empty.elim (by omega) proper.nonempty
    refine ⟨isWhole_of_head? (List.append_ne_nil_of_left_ne_nil some _) ?_, fun c member => ?_,
      fun c member => ?_⟩
    · rw [List.head?_append_of_ne_nil _ some, List.head?_take, if_neg (by omega)]
      exact proper.leading
    · exact (List.mem_append.mp member).elim (proper.digits c ∘ List.mem_of_mem_take) zeros_isDigit
    · dsimp only at member
      split at member
      · exact zeros_isDigit (n := 1) member
      · exact proper.digits c (List.mem_of_mem_drop member)

theorem scientific_proper (proper : d.Proper) (negative : Bool) : (scientific negative d).Proper := by
  refine ⟨?_, fun c => proper.digits c ∘ List.mem_of_mem_take, fun c => proper.digits c ∘ List.mem_of_mem_drop⟩
  have some : d.digits.take 1 ≠ [] := by
    rw [Ne, List.take_eq_nil_iff]
    exact fun empty => empty.elim (by omega) proper.nonempty
  apply isWhole_of_head? some
  rw [List.head?_take, if_neg (by decide)]
  exact proper.leading

theorem negative_spread (negative : Bool) (d : Digits) : (spread negative d).negative = negative := by
  unfold spread
  split <;> rfl

theorem magnitude_spread (negative : Bool) (d : Digits) :
    (spread negative d).literal.magnitude = d.value := by
  have ten : (10 : ℚ) ≠ 0 := by norm_num
  unfold spread
  split
  · rename_i point
    have digits : Nat.ofDigitChars 10 (['0'] ++ (zeros (-d.point).toNat ++ d.digits)) 0 =
        Nat.ofDigitChars 10 d.digits 0 := by
      simp [Nat.ofDigitChars_append, zeros, Nat.ofDigitChars_replicate_zero, Nat.ofDigitChars_cons]
    have exponent : (0 : Int) - (zeros (-d.point).toNat ++ d.digits).length = d.point - d.digits.length := by
      rw [List.length_append, zeros, List.length_replicate]
      omega
    rw [Literal.magnitude, literal, Digits.value]
    simp only [Option.getD_none, digits, exponent]
  · rename_i point
    rw [Literal.magnitude, literal, Digits.value]
    by_cases short : d.digits.length ≤ d.point.toNat
    · have digits : Nat.ofDigitChars 10
          (d.digits.take d.point.toNat ++ zeros (d.point.toNat - d.digits.length) ++ ['0']) 0 =
          Nat.ofDigitChars 10 d.digits 0 * 10 ^ (d.point.toNat - d.digits.length + 1) := by
        rw [List.take_of_length_le short, zeros, Nat.ofDigitChars_append, Nat.ofDigitChars_append,
          Nat.ofDigitChars_replicate_zero, Nat.ofDigitChars_cons, Nat.ofDigitChars_nil, Nat.sub_self]
        ring
      have exponent : d.point - d.digits.length =
          ((d.point.toNat - d.digits.length + 1 : Nat) : Int) + (0 - (['0'] : List Char).length) := by
        rw [List.length_singleton]
        omega
      simp only [if_pos short, digits, Option.getD_none, exponent, zpow_add₀ ten, zpow_natCast]
      push_cast
      ring
    · have none : zeros (d.point.toNat - d.digits.length) = [] := by
        rw [Nat.sub_eq_zero_of_le (by omega)]
        rfl
      have exponent : (0 : Int) - (d.digits.drop d.point.toNat).length = d.point - d.digits.length := by
        rw [List.length_drop]
        omega
      simp only [if_neg short, none, List.append_nil, List.take_append_drop, Option.getD_none, exponent]

theorem magnitude_scientific (negative : Bool) (nonempty : d.digits ≠ []) :
    (scientific negative d).literal.magnitude = d.value := by
  have some : 0 < d.digits.length := List.length_pos_iff.mpr nonempty
  have exponent : d.point - 1 - ((d.digits.drop 1).length : Int) = d.point - d.digits.length := by
    rw [List.length_drop]
    omega
  rw [Literal.magnitude, literal, Digits.value]
  simp only [scientific, List.take_append_drop, Option.getD_some, exponent]

end Numeral

theorem write_finite (negative : Bool) (m : Nat) (q : Int) :
    Notation.json.write (.finite negative m q) = Numeral.sign negative ++
      if Notation.json.positional ((Interval.ofBinary m q).shortest .toEven).point then
        Notation.json.spread ((Interval.ofBinary m q).shortest .toEven)
      else Notation.json.scientific ((Interval.ofBinary m q).shortest .toEven) := rfl

/-- What is written for a finite number of binary64 is a numeral that is rounded to it. -/
theorem exists_numeral {bits : Nat} {x : Number} (given : x = .ofBits bits)
    (finite : ∀ negative, x ≠ .infinite negative) (number : x ≠ .nan) :
    ∃ numeral : Numeral, numeral.Proper ∧ numeral.text = Notation.json.write x ∧
      numeral.literal.Rounds x := by
  cases x with
  | nan => exact absurd rfl number
  | infinite negative => exact absurd rfl (finite negative)
  | zero negative =>
    exact ⟨{ negative, whole := ['0'], fraction := ['0'] },
      ⟨rfl, fun c => Numeral.zeros_isDigit (n := 1), fun c => Numeral.zeros_isDigit (n := 1)⟩, rfl, rfl, rfl⟩
  | finite negative m q =>
    have binary := isBinary_of_ofBits given.symm
    have proper := shortest_proper binary .toEven
    have rounds := roundsTo_shortest binary .toEven
    rw [write_finite]
    split
    · refine ⟨.spread negative _, Numeral.spread_proper proper negative,
        Numeral.text_spread proper.nonempty negative, Numeral.negative_spread .., ?_⟩
      rw [Numeral.magnitude_spread]
      exact rounds
    · refine ⟨.scientific negative _, Numeral.scientific_proper proper negative,
        Numeral.text_scientific negative _, rfl, ?_⟩
      rw [Numeral.magnitude_scientific negative proper.nonempty]
      exact rounds

end WorkerPool.Decimal
