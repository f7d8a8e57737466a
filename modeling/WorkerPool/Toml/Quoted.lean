import WorkerPool.Toml.Scalar

/-!
Quoted texts of a TOML document, on one line or over several, with or without escapes.
-/

namespace WorkerPool.Toml

def isSpace (c : Char) : Bool := c == ' ' || c == '\t'

/-- Characters that stand for themselves inside quotes; the quote and the backslash are the
caller's concern. -/
def isPlain (c : Char) : Bool := c == '\t' || (32 ≤ c.toNat && c.toNat != 127)

def hexEscape? (count : Nat) (text : List Char) : Option (Char × List Char) :=
  let digits := text.take count
  if digits.length = count ∧ digits.all Text.isHexDigit then
    (Text.scalarValue? (Text.inBase 16 digits)).map (·, text.drop count)
  else none

def escape? : List Char → Option (Char × List Char)
  | 'b' :: rest => some ('\x08', rest)
  | 't' :: rest => some ('\t', rest)
  | 'n' :: rest => some ('\n', rest)
  | 'f' :: rest => some ('\x0c', rest)
  | 'r' :: rest => some ('\r', rest)
  | '"' :: rest => some ('"', rest)
  | '\\' :: rest => some ('\\', rest)
  | 'u' :: rest => hexEscape? 4 rest
  | 'U' :: rest => hexEscape? 8 rest
  | _ => none

def afterNewline? : List Char → Option (List Char)
  | '\n' :: rest => some rest
  | '\r' :: '\n' :: rest => some rest
  | _ => none

def skipLines : List Char → List Char
  | '\r' :: '\n' :: rest => skipLines rest
  | c :: rest => if isSpace c || c == '\n' then skipLines rest else c :: rest
  | [] => []

def basicBody? : Nat → List Char → Option (List Char × List Char)
  | 0, _ => none
  | fuel + 1, text =>
    match text with
    | '"' :: rest => some ([], rest)
    | '\\' :: rest => do
      let (c, rest) ← escape? rest
      let (body, rest) ← basicBody? fuel rest
      some (c :: body, rest)
    | c :: rest =>
      if isPlain c then do
        let (body, rest) ← basicBody? fuel rest
        some (c :: body, rest)
      else none
    | [] => none

def literalBody? (text : List Char) : Option (List Char × List Char) :=
  let body := text.takeWhile (· != '\'')
  match text.dropWhile (· != '\'') with
  | _ :: rest => if body.all isPlain then some (body, rest) else none
  | [] => none

/-- The rest of a text over several lines, up to three closing quotes; one or two quotes more
before those belong to the text. Only a text with escapes knows the backslash. -/
def linesBody? (quote : Char) (escapes : Bool) : Nat → List Char → Option (List Char × List Char)
  | 0, _ => none
  | fuel + 1, text =>
    match text with
    | [] => none
    | c :: rest =>
      if c = quote then
        let run := (text.takeWhile (· == quote)).length
        if run < 3 then (linesBody? quote escapes fuel rest).map fun (body, rest) => (c :: body, rest)
        else if run ≤ 5 then some (List.replicate (run - 3) quote, text.drop run)
        else none
      else if escapes ∧ c = '\\' then
        match afterNewline? (rest.dropWhile isSpace) with
        | some lines => linesBody? quote escapes fuel (skipLines lines)
        | none => do
          let (c, rest) ← escape? rest
          let (body, rest) ← linesBody? quote escapes fuel rest
          some (c :: body, rest)
      else match afterNewline? text with
        | some rest =>
          (linesBody? quote escapes fuel rest).map fun (body, rest) => ('\n' :: body, rest)
        | none =>
          if isPlain c then
            (linesBody? quote escapes fuel rest).map fun (body, rest) => (c :: body, rest)
          else none

def lineText? : List Char → Option (List Char × List Char)
  | '"' :: rest => basicBody? (rest.length + 1) rest
  | '\'' :: rest => literalBody? rest
  | _ => none

/-- A quoted text; a line end right after three opening quotes is not part of it. -/
def quotedText? (text : List Char) : Option (List Char × List Char) :=
  let body (quote : Char) (escapes : Bool) (rest : List Char) :=
    linesBody? quote escapes (rest.length + 1) ((afterNewline? rest).getD rest)
  match text with
  | '"' :: '"' :: '"' :: rest => body '"' true rest
  | '\'' :: '\'' :: '\'' :: rest => body '\'' false rest
  | text => lineText? text

end WorkerPool.Toml
