import WorkerPool.Decimal.Notation

/-!
Values as log lines carry them, and how they are written on one line.
-/

namespace WorkerPool.Log

/-- A value in a log line; an object keeps the order of its entries. -/
inductive Json
  | null
  | bool (value : Bool)
  | int (value : Int)
  | number (value : Decimal.Number)
  | text (value : String)
  | object (entries : List (String × Json))

namespace Json

def nat (n : Nat) : Json := .int n

def hexDigit (n : Nat) : Char := Nat.digitChar (n % 16)

def escapeChar (c : Char) : List Char :=
  match c with
  | '"' => ['\\', '"']
  | '\\' => ['\\', '\\']
  | '\n' => ['\\', 'n']
  | '\r' => ['\\', 'r']
  | '\t' => ['\\', 't']
  | '\x08' => ['\\', 'b']
  | '\x0c' => ['\\', 'f']
  | c =>
    if c.toNat < 32 then ['\\', 'u', '0', '0', hexDigit (c.toNat / 16), hexDigit c.toNat]
    else [c]

def renderText (s : String) : List Char :=
  '"' :: s.toList.flatMap escapeChar ++ ['"']

/-- A number that is not finite has no written form and becomes `null`. -/
def renderNumber : Decimal.Number → List Char
  | .nan | .infinite _ => "null".toList
  | n => Decimal.Notation.json.write n

mutual

def render : Json → List Char
  | .null => "null".toList
  | .bool true => "true".toList
  | .bool false => "false".toList
  | .int n => (toString n).toList
  | .number n => renderNumber n
  | .text s => renderText s
  | .object entries => '\x7b' :: renderEntries entries ++ ['\x7d']

def renderEntries : List (String × Json) → List Char
  | [] => []
  | [(key, value)] => renderText key ++ ':' :: render value
  | (key, value) :: next :: rest =>
    renderText key ++ ':' :: render value ++ ',' :: renderEntries (next :: rest)

end

def line (j : Json) : String := String.ofList j.render

end Json
end WorkerPool.Log
