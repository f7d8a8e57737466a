/-!
Whole numbers within bounds, read from decimal text from left to right. The first character
that is no digit, or the first digit that leaves the bounds, decides the error.
-/

namespace WorkerPool.Decimal

def countMax : Nat := 18446744073709551615

def signedMax : Nat := 9223372036854775807

inductive WholeError
  | empty
  | invalidDigit
  | tooLarge
  | tooSmall
  deriving DecidableEq, Repr

def WholeError.message : WholeError → String
  | .empty => "cannot parse integer from empty string"
  | .invalidDigit => "invalid digit found in string"
  | .tooLarge => "number too large to fit in target type"
  | .tooSmall => "number too small to fit in target type"

def digitValue (c : Char) : Nat := c.toNat - '0'.toNat

/-- Reads on from the value `n` read so far, reporting `overflow` above `limit`. -/
def readDigits (limit : Nat) (overflow : WholeError) : Nat → List Char → Except WholeError Nat
  | n, [] => .ok n
  | n, c :: rest =>
    if c.isDigit then
      if 10 * n + digitValue c ≤ limit then
        readDigits limit overflow (10 * n + digitValue c) rest
      else .error overflow
    else .error .invalidDigit

/-- A count up to `limit`, with an optional plus sign. -/
def readNat (limit : Nat) : List Char → Except WholeError Nat
  | [] => .error .empty
  | ['+'] => .error .invalidDigit
  | '+' :: rest => readDigits limit .tooLarge 0 rest
  | text => readDigits limit .tooLarge 0 text

/-- A number from `-below` to `above`, with an optional sign. -/
def readInt (below above : Nat) : List Char → Except WholeError Int
  | ['-'] => .error .invalidDigit
  | '-' :: rest => (readDigits below .tooSmall 0 rest).map fun n => -(n : Int)
  | text => (readNat above text).map fun n => (n : Int)

def readCount : List Char → Except WholeError Nat := readNat countMax

end WorkerPool.Decimal
