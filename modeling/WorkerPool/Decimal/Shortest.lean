/-!
The shortest decimal that reads back as a given binary64 number. Of the decimals with the
fewest digits inside the interval that rounds to the number, the nearest is taken; which of two
equally near ones, is the writer's choice.
-/

namespace WorkerPool.Decimal

/-- The decimal `0.d₁d₂… × 10 ^ point`, where `d₁` is not zero. -/
structure Digits where
  digits : List Char
  point : Int
  deriving DecidableEq, Repr

/-- A positive binary fraction with the bounds of the numbers that round to it, all three
over one denominator. -/
structure Interval where
  low : Nat
  value : Nat
  high : Nat
  denominator : Nat
  /-- Whether the bounds themselves round to the value. -/
  closed : Bool

/-- Where a number goes that lies halfway between two decimals. -/
inductive Tie
  | toEven
  | away
  deriving DecidableEq, Repr

/-- Whether of `n` and `n + 1`, equally near, the lower one is taken. -/
def Tie.keeps : Tie → Nat → Bool
  | .toEven, n => n % 2 == 0
  | .away, _ => false

/-- The interval of `m · 2 ^ q`. Below a power of two the gap is half the gap above it, unless
the exponent is the least. -/
def Interval.ofBinary (m : Nat) (q : Int) : Interval :=
  let narrow := m == Nat.pow 2 52 && q != -1074
  let scale := Nat.pow 2 (q - 2).toNat
  { low := (4 * m - if narrow then 1 else 2) * scale
    value := 4 * m * scale
    high := (4 * m + 2) * scale
    denominator := Nat.pow 2 (2 - q).toNat
    closed := m % 2 == 0 }

def Interval.admits (i : Interval) (n : Nat) (k : Int) : Bool :=
  let a := n * Nat.pow 10 k.toNat * i.denominator
  let scale := Nat.pow 10 (-k).toNat
  if i.closed then i.low * scale ≤ a && a ≤ i.high * scale
  else i.low * scale < a && a < i.high * scale

/-- The least number of tenfold steps, up to `fuel`, that lift `n` to `d`. -/
def stepsTo (d : Nat) : Nat → Nat → Nat
  | 0, _ => 0
  | fuel + 1, n => if d ≤ n then 0 else stepsTo d fuel (10 * n) + 1

def Interval.magnitude (i : Interval) : Int :=
  if i.denominator ≤ i.value then
    ((Nat.toDigits 10 (i.value / i.denominator)).length : Int) - 1
  else -(stepsTo i.denominator 400 i.value : Int)

/-- The better of the two neighbours of the value on the grid of `10 ^ k`. -/
def Interval.onGrid? (i : Interval) (tie : Tie) (k : Int) : Option Nat :=
  let a := i.value * Nat.pow 10 (-k).toNat
  let b := i.denominator * Nat.pow 10 k.toNat
  let n := a / b
  let below := i.admits n k && n != 0
  let above := i.admits (n + 1) k
  if below && above then
    if 2 * (a % b) < b || (2 * (a % b) == b && tie.keeps n) then some n else some (n + 1)
  else if below then some n
  else if above then some (n + 1)
  else none

/-- The first grid with a hit, from `k` downwards through `fuel` grids. -/
def Interval.firstHit (i : Interval) (tie : Tie) : Nat → Int → Nat × Int
  | 0, k => (i.value * Nat.pow 10 (-k).toNat / (i.denominator * Nat.pow 10 k.toNat), k)
  | fuel + 1, k => match i.onGrid? tie k with
    | some n => (n, k)
    | none => i.firstHit tie fuel (k - 1)

def Interval.shortest (i : Interval) (tie : Tie) : Digits :=
  let (n, k) := i.firstHit tie 17 i.magnitude
  let digits := Nat.toDigits 10 n
  { digits := (digits.reverse.dropWhile (· == '0')).reverse
    point := k + digits.length }

/-- What a binary64 number is; a finite one is `significand · 2 ^ exponent`. -/
inductive Number
  | nan
  | infinite (negative : Bool)
  | zero (negative : Bool)
  | finite (negative : Bool) (significand : Nat) (exponent : Int)
  deriving DecidableEq, Repr

def Number.ofBits (bits : Nat) : Number :=
  let negative := bits / Nat.pow 2 63 % 2 == 1
  let exponent : Nat := bits / Nat.pow 2 52 % 2048
  let fraction : Nat := bits % Nat.pow 2 52
  if exponent == 2047 then if fraction == 0 then .infinite negative else .nan
  else if exponent == 0 then
    if fraction == 0 then .zero negative else .finite negative fraction (-1074)
  else .finite negative (Nat.pow 2 52 + fraction) ((exponent : Int) - 1075)

def Number.ofFloat (x : Float) : Number := .ofBits x.toBits.toNat

end WorkerPool.Decimal
