import WorkerPool.Decimal.Whole

/-!
Binary64 numbers read from decimal text: a sign, digits with at most one point, an exponent,
or one of the words for the numbers that are not finite.
-/

namespace WorkerPool.Decimal

/-- `m · 10 ^ e`, rounded once. Exponents far out of range are settled without the power. -/
def floatOf (m : Nat) (e : Int) : Float :=
  let size : Int := (Nat.toDigits 10 m).length
  if m = 0 then 0.0
  else if 400 < e + size then 1.0 / 0.0
  else if e + size < -400 then 0.0
  else Float.ofScientific m (e < 0) e.natAbs

def digitsValue (digits : List Char) : Nat :=
  digits.foldl (fun n c => 10 * n + digitValue c) 0

def readExponent? : List Char → Option Int
  | [] => some 0
  | mark :: rest =>
    let (sign, digits) : Int × List Char := match rest with
      | '-' :: digits => (-1, digits)
      | '+' :: digits => (1, digits)
      | digits => (1, digits)
    if (mark == 'e' || mark == 'E') && !digits.isEmpty && digits.all Char.isDigit then
      some (sign * digitsValue digits)
    else none

def readUnsigned? (text : List Char) : Option Float :=
  let word := String.ofList (text.map Char.toLower)
  if word = "inf" ∨ word = "infinity" then some (1.0 / 0.0)
  else if word = "nan" then some (0.0 / 0.0)
  else
    let whole := text.takeWhile Char.isDigit
    let rest := text.dropWhile Char.isDigit
    let (fraction, rest) := match rest with
      | '.' :: after => (after.takeWhile Char.isDigit, after.dropWhile Char.isDigit)
      | _ => ([], rest)
    if whole.isEmpty && fraction.isEmpty then none
    else
      (readExponent? rest).map fun e =>
        floatOf (digitsValue (whole ++ fraction)) (e - fraction.length)

def readFloat? : List Char → Option Float
  | '-' :: rest => (readUnsigned? rest).map (-·)
  | '+' :: rest => readUnsigned? rest
  | text => readUnsigned? text

end WorkerPool.Decimal
