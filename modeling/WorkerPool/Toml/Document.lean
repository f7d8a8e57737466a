import WorkerPool.Toml.Quoted

/-!
TOML documents: expressions line by line, each a comment, a header or a key with its value.
-/

namespace WorkerPool.Toml

/-- Values nest less deeply than this, and keys have fewer parts. -/
def depthLimit : Nat := 80

def skipSpaces (text : List Char) : List Char := text.dropWhile isSpace

def isBareChar (c : Char) : Bool := c.isAlphanum || c == '-' || c == '_'

def keyPart? (text : List Char) : Option (String × List Char) :=
  match text with
  | '"' :: _ | '\'' :: _ => (lineText? text).map fun (s, rest) => (String.ofList s, rest)
  | _ =>
    let part := text.takeWhile isBareChar
    if part.isEmpty then none else some (String.ofList part, text.dropWhile isBareChar)

def keyParts? : Nat → List Char → Option (List String × List Char)
  | 0, _ => none
  | fuel + 1, text => do
    let (part, rest) ← keyPart? (skipSpaces text)
    match skipSpaces rest with
    | '.' :: rest => do
      let (parts, rest) ← keyParts? fuel rest
      some (part :: parts, rest)
    | rest => some ([part], rest)

/-- A key as its front part and its last part, with what follows. -/
def key? (text : List Char) : Option ((List String × String) × List Char) := do
  let (parts, rest) ← keyParts? (text.length + 1) text
  if parts.length < depthLimit then
    let last ← parts.getLast?
    some ((parts.dropLast, last), rest)
  else none

def afterComment? (text : List Char) : Option (List Char) :=
  let isEnd (c : Char) := c == '\n' || c == '\r'
  if (text.takeWhile fun c => !isEnd c).all isPlain then some (text.dropWhile fun c => !isEnd c)
  else none

def skipBetween? : Nat → List Char → Option (List Char)
  | 0, _ => none
  | fuel + 1, text =>
    match skipSpaces text with
    | '#' :: rest => do
      let rest ← afterComment? rest
      let rest ← afterNewline? rest
      skipBetween? fuel rest
    | rest => match afterNewline? rest with
      | some rest => skipBetween? fuel rest
      | none => some rest

def arrayItems? (value? : List Char → Option (Node × List Char)) :
    Nat → List Char → Option (List Node × List Char)
  | 0, _ => none
  | fuel + 1, text => do
    match ← skipBetween? (text.length + 1) text with
    | ']' :: rest => some ([], rest)
    | rest =>
      let (item, rest) ← value? rest
      match ← skipBetween? (rest.length + 1) rest with
      | ',' :: rest => do
        let (items, rest) ← arrayItems? value? fuel rest
        some (item :: items, rest)
      | ']' :: rest => some ([item], rest)
      | _ => none

def keyValue? (value? : List Char → Option (Node × List Char)) (text : List Char) :
    Option (((List String × String) × Node) × List Char) := do
  let (key, rest) ← key? text
  match rest with
  | '=' :: rest => do
    let (node, rest) ← value? (skipSpaces rest)
    some ((key, node), skipSpaces rest)
  | _ => none

def inlineEntries? (value? : List Char → Option (Node × List Char)) :
    Nat → Entries → List Char → Option (Entries × List Char)
  | 0, _, _ => none
  | fuel + 1, entries, text => do
    let (((path, key), node), rest) ← keyValue? value? text
    let entries ← entries.set path key node .own
    match rest with
    | ',' :: rest => inlineEntries? value? fuel entries rest
    | '\x7d' :: rest => some (entries, rest)
    | _ => none

def atom? (text : List Char) : Option (Node × List Char) :=
  match text with
  | '"' :: _ | '\'' :: _ => (quotedText? text).map fun (s, rest) => (.text (String.ofList s), rest)
  | _ => readScalar? text

/-- A value at the front of a text, with what follows; `depth` levels may still open. -/
def value? : Nat → List Char → Option (Node × List Char)
  | 0, text => atom? text
  | depth + 1, text =>
    match text with
    | '[' :: rest =>
      (arrayItems? (value? depth) (rest.length + 1) rest).map fun (items, rest) =>
        (.array items, rest)
    | '\x7b' :: rest =>
      match skipSpaces rest with
      | '\x7d' :: rest => some (.table .inline [], rest)
      | _ =>
        (inlineEntries? (value? depth) (rest.length + 1) [] rest).map fun (entries, rest) =>
          (.table .inline entries, rest)
    | _ => atom? text

def lineEnd? (text : List Char) : Option (List Char) := do
  let rest ← match skipSpaces text with
    | '#' :: rest => afterComment? rest
    | rest => some rest
  if rest.isEmpty then some [] else afterNewline? rest

structure Draft where
  root : Entries := []
  header : List String := []

def Draft.addLine? (draft : Draft) (text : List Char) : Option (Draft × List Char) :=
  match text with
  | '#' :: _ => (lineEnd? text).map (draft, ·)
  | '[' :: '[' :: rest => do
    let ((path, key), rest) ← key? rest
    match rest with
    | ']' :: ']' :: rest => do
      let root ← draft.root.openNext path key
      let rest ← lineEnd? rest
      some (⟨root, path ++ [key]⟩, rest)
    | _ => none
  | '[' :: rest => do
    let ((path, key), rest) ← key? rest
    match rest with
    | ']' :: rest => do
      let root ← draft.root.openTable path key
      let rest ← lineEnd? rest
      some (⟨root, path ++ [key]⟩, rest)
    | _ => none
  | text =>
    match afterNewline? text with
    | some rest => some (draft, rest)
    | none => do
      let (((path, key), node), rest) ← keyValue? (value? (depthLimit - 1)) text
      let root ← draft.root.atPath false (fun origin entries => entries.set path key node origin)
        draft.header .own
      let rest ← lineEnd? rest
      some ({ draft with root }, rest)

def Draft.addLines? : Nat → Draft → List Char → Option Entries
  | 0, _, _ => none
  | fuel + 1, draft, text =>
    match skipSpaces text with
    | [] => some draft.root
    | rest => do
      let (draft, rest) ← draft.addLine? rest
      addLines? fuel draft rest

/-- The entries of a document, or nothing if it is malformed. A byte order mark may come
first. -/
def parse? (text : String) : Option Entries :=
  let text := match text.toList with
    | '\ufeff' :: rest => rest
    | text => text
  Draft.addLines? (text.length + 1) {} text

end WorkerPool.Toml
