import WorkerPool.Decimal.Whole
import WorkerPool.Text.Classes
import WorkerPool.Text.Lowercase

/-!
Lengths of time: how a setting spells one and how one is shown. A spelling is a whole number
with an optional unit; no unit means seconds, and zero means that there is no duration.
-/

namespace WorkerPool

/-- A length of time in whole nanoseconds. -/
structure Duration where
  nanos : Nat
  deriving DecidableEq, Repr

namespace Duration

def ofMillis (n : Nat) : Duration := ⟨n * 1000000⟩

def ofSeconds (n : Nat) : Duration := ⟨n * 1000000000⟩

def millis (d : Duration) : Nat := d.nanos / 1000000

/-- A whole part and `part / 10 ^ places`, without zeros at the end. -/
def decimal (whole part places : Nat) : List Char :=
  let digits := Nat.toDigits 10 part
  let padded := List.replicate (places - digits.length) '0' ++ digits
  let fraction := (padded.reverse.dropWhile (· == '0')).reverse
  Nat.toDigits 10 whole ++ if fraction.isEmpty then [] else '.' :: fraction

/-- Shown in the largest unit that leaves a whole part. -/
def text (d : Duration) : String :=
  let n := d.nanos
  if 1000000000 ≤ n then String.ofList (decimal (n / 1000000000) (n % 1000000000) 9) ++ "s"
  else if 1000000 ≤ n then String.ofList (decimal (n / 1000000) (n % 1000000) 6) ++ "ms"
  else if 1000 ≤ n then String.ofList (decimal (n / 1000) (n % 1000) 3) ++ "µs"
  else String.ofList (Nat.toDigits 10 n) ++ "ns"

/-- Why a text spells no duration; both causes hold the text, trimmed and in lower case. -/
inductive Error
  | invalid (text : String)
  | outOfRange (text : String)
  deriving DecidableEq, Repr

def Error.message : Error → String
  | .invalid text => "invalid duration: " ++ text
  | .outOfRange text => "duration out of range: " ++ text

/-- Unit endings with their length in milliseconds, tried in this order. -/
def units : List (List Char × Nat) :=
  [(['m', 's'], 1), (['s'], 1000), (['m'], 60000), (['h'], 3600000), (['d'], 86400000)]

def splitUnit (text : List Char) : List Char × Nat :=
  (units.findSome? fun (ending, length) =>
    if ending.isSuffixOf text then some (text.take (text.length - ending.length), length)
    else none).getD (text, 1000)

def read (text : List Char) : Except Error (Option Duration) :=
  if text = ['o', 'f', 'f'] ∨ text = ['0'] ∨ text = [] then .ok none
  else
    let (number, unit) := splitUnit text
    match Decimal.readCount (Text.trim number) with
    | .error _ => .error (.invalid (String.ofList text))
    | .ok n =>
      if n * unit = 0 then .ok none
      else if n * unit ≤ Decimal.countMax then .ok (some (ofMillis (n * unit)))
      else .error (.outOfRange (String.ofList text))

/-- The duration that a setting spells, or `none` where it switches the duration off. -/
def parse (text : String) : Except Error (Option Duration) :=
  read (Text.lower (Text.trim text.toList))

end Duration
end WorkerPool
