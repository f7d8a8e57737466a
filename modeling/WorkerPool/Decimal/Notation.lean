import WorkerPool.Decimal.Shortest

/-!
How shortest decimals are laid out: where positional notation ends, how an exponent is written,
and which of two equally near decimals is taken.
-/

namespace WorkerPool.Decimal

structure Notation where
  /-- Decimals with their point here are written without an exponent. -/
  positional : Int → Bool
  /-- Whole numbers end in a point and a zero. -/
  keepsPoint : Bool
  /-- A positive exponent carries a plus sign. -/
  plusSign : Bool
  tie : Tie

/-- Metric values: never an exponent, and no point in whole numbers. -/
def Notation.metric : Notation := ⟨fun _ => true, false, false, .away⟩

/-- Numbers in log lines: positional from 10⁻⁵ up to 10¹⁶. -/
def Notation.json : Notation := ⟨fun p => -5 < p && p ≤ 16, true, true, .toEven⟩

/-- Numbers in plain log lines: positional from 10⁻⁴ up to 10¹⁶. -/
def Notation.plain : Notation := ⟨fun p => -4 < p && p ≤ 16, true, false, .away⟩

def zeros (n : Nat) : List Char := List.replicate n '0'

def Notation.fraction (style : Notation) (digits : List Char) : List Char :=
  if digits.isEmpty then if style.keepsPoint then ['.', '0'] else [] else '.' :: digits

def Notation.spread (style : Notation) (d : Digits) : List Char :=
  if d.point ≤ 0 then '0' :: '.' :: zeros (-d.point).toNat ++ d.digits
  else
    let whole := d.point.toNat
    d.digits.take whole ++ zeros (whole - d.digits.length) ++
      style.fraction (d.digits.drop whole)

def Notation.scientific (style : Notation) (d : Digits) : List Char :=
  let exponent := d.point - 1
  let rest := d.digits.drop 1
  d.digits.take 1 ++ (if rest.isEmpty then [] else '.' :: rest) ++
    'e' :: (if 0 ≤ exponent && style.plusSign then ['+'] else []) ++ (toString exponent).toList

def Notation.write (style : Notation) : Number → List Char
  | .nan => ['N', 'a', 'N']
  | .infinite negative => (if negative then ['-'] else []) ++ ['i', 'n', 'f']
  | .zero negative => (if negative then ['-'] else []) ++ '0' :: style.fraction []
  | .finite negative m q =>
    let d := (Interval.ofBinary m q).shortest style.tie
    (if negative then ['-'] else []) ++
      if style.positional d.point then style.spread d else style.scientific d

def Notation.text (style : Notation) (x : Float) : String :=
  String.ofList (style.write (.ofFloat x))

end WorkerPool.Decimal
