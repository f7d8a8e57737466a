import WorkerPool.Decimal.Reading
import WorkerPool.Text.Classes
import WorkerPool.Toml.Node

/-!
Numbers, truth values and dates: a run of characters that spells one value from end to end.
-/

namespace WorkerPool.Toml

def isTokenChar (c : Char) : Bool :=
  c.isAlphanum || c == '+' || c == '-' || c == '_' || c == '.' || c == ':'

/-- The digits of a run in which single underscores may stand between digits. -/
def separated? (isDigit : Char → Bool) : List Char → Option (List Char)
  | [] => none
  | [c] => if isDigit c then some [c] else none
  | c :: '_' :: rest => if isDigit c then (separated? isDigit rest).map (c :: ·) else none
  | c :: rest => if isDigit c then (separated? isDigit rest).map (c :: ·) else none

def splitSign : List Char → Bool × List Char
  | '-' :: rest => (true, rest)
  | '+' :: rest => (false, rest)
  | text => (false, text)

/-- Decimal digits with neither a needless zero in front nor a stray underscore. -/
def wholeDigits? (text : List Char) : Option (List Char) :=
  match separated? Char.isDigit text with
  | some ('0' :: _ :: _) => none
  | digits => digits

/-- A whole number that fits in 64 bits. Other bases take no sign. -/
def int? (text : List Char) : Option Int :=
  let max : Int := Decimal.signedMax
  let bounded (n : Int) : Option Int := if -max - 1 ≤ n ∧ n ≤ max then some n else none
  match text with
  | '0' :: 'x' :: rest =>
    (separated? Text.isHexDigit rest).bind fun ds => bounded (Text.inBase 16 ds)
  | '0' :: 'o' :: rest =>
    (separated? (fun c => '0' ≤ c && c ≤ '7') rest).bind fun ds => bounded (Text.inBase 8 ds)
  | '0' :: 'b' :: rest =>
    (separated? (fun c => c == '0' || c == '1') rest).bind fun ds => bounded (Text.inBase 2 ds)
  | text =>
    let (negative, digits) := splitSign text
    (wholeDigits? digits).bind fun ds =>
      bounded (if negative then -(Text.inBase 10 ds : Int) else Text.inBase 10 ds)

def isExponentMark (c : Char) : Bool := c == 'e' || c == 'E'

/-- Whether a text spells a number with a fraction, an exponent or both, or one of the words.
A positive number beyond all finite ones is refused. -/
def isFloat (text : List Char) : Bool :=
  let (negative, body) := splitSign text
  if body == ['i', 'n', 'f'] || body == ['n', 'a', 'n'] then true
  else
    let mantissa := body.takeWhile fun c => !isExponentMark c
    let exponent := (body.dropWhile fun c => !isExponentMark c).drop 1
    let hasExponent := body.any isExponentMark
    let whole := mantissa.takeWhile (· != '.')
    let fraction := (mantissa.dropWhile (· != '.')).drop 1
    let hasFraction := mantissa.contains '.'
    (hasExponent || hasFraction) && (wholeDigits? whole).isSome &&
      (!hasFraction || (separated? Char.isDigit fraction).isSome) &&
      (!hasExponent || (separated? Char.isDigit (splitSign exponent).2).isSome) &&
      (negative ||
        (Decimal.readFloat? (body.filter (· != '_'))).any fun x => x < 1.0 / 0.0)

def fixedDigits? (n : Nat) (text : List Char) : Option (Nat × List Char) :=
  let digits := text.take n
  if digits.length = n ∧ digits.all Char.isDigit then
    some (Decimal.digitsValue digits, text.drop n)
  else none

def daysIn (year month : Nat) : Nat :=
  if month = 2 then
    if year % 4 = 0 ∧ (year % 100 ≠ 0 ∨ year % 400 = 0) then 29 else 28
  else if month = 4 ∨ month = 6 ∨ month = 9 ∨ month = 11 then 30
  else 31

def afterDate? (text : List Char) : Option (List Char) := do
  let (year, rest) ← fixedDigits? 4 text
  let rest ← if rest.head? = some '-' then some rest.tail else none
  let (month, rest) ← fixedDigits? 2 rest
  let rest ← if rest.head? = some '-' then some rest.tail else none
  let (day, rest) ← fixedDigits? 2 rest
  if 1 ≤ month ∧ month ≤ 12 ∧ 1 ≤ day ∧ day ≤ daysIn year month then some rest else none

def afterTime? (text : List Char) : Option (List Char) := do
  let (hour, rest) ← fixedDigits? 2 text
  let rest ← if rest.head? = some ':' then some rest.tail else none
  let (minute, rest) ← fixedDigits? 2 rest
  let rest ← if rest.head? = some ':' then some rest.tail else none
  let (second, rest) ← fixedDigits? 2 rest
  if hour ≤ 23 ∧ minute ≤ 59 ∧ second ≤ 60 then
    match rest with
    | '.' :: d :: more => if d.isDigit then some (more.dropWhile Char.isDigit) else none
    | rest => some rest
  else none

def isOffset : List Char → Bool
  | [] => true
  | ['Z'] | ['z'] => true
  | sign :: rest =>
    (sign == '+' || sign == '-') &&
      match fixedDigits? 2 rest with
      | some (hour, ':' :: rest) =>
        match fixedDigits? 2 rest with
        | some (minute, []) => hour ≤ 23 && minute ≤ 59
        | _ => false
      | _ => false

def isMoment (text : List Char) : Bool :=
  match afterDate? text with
  | some [] => true
  | some (mark :: rest) =>
    (mark == 'T' || mark == 't' || mark == ' ') && (afterTime? rest).any isOffset
  | none => afterTime? text == some []

def scalar? (text : List Char) : Option Node :=
  match String.ofList text with
  | "true" => some (.bool true)
  | "false" => some (.bool false)
  | _ =>
    match int? text with
    | some n => some (.int n)
    | none => if isFloat text then some .float else if isMoment text then some .moment else none

/-- The scalar at the front of a text, with what follows. A date and a time may have a blank
between them. -/
def readScalar? (text : List Char) : Option (Node × List Char) :=
  let token := text.takeWhile isTokenChar
  let rest := text.dropWhile isTokenChar
  match afterDate? token, rest with
  | some [], ' ' :: more =>
    let time := more.takeWhile isTokenChar
    if time.isEmpty then some (.moment, rest)
    else if isMoment (token ++ ' ' :: time) then some (.moment, more.dropWhile isTokenChar)
    else none
  | _, _ => (scalar? token).map (·, rest)

end WorkerPool.Toml
