import WorkerPool.Text.Classes

/-!
The smallest parts of a pattern that texts are matched with: single characters and escapes.
No tables of the world's scripts are at hand for matching. What would need one is refused:
both cases of a letter, the shorthands for digits, blanks and word characters, and the edges
of words. All of these can be had in a part that matches bytes, where they stand for ASCII.
-/

namespace WorkerPool.Pattern

structure Mode where
  /-- A letter stands for both its cases. -/
  anyCase : Bool := false
  /-- Characters of all scripts are matched, and not bytes. -/
  unicode : Bool := true
  /-- Blanks and comments between the parts are passed over. -/
  spaced : Bool := false
  deriving DecidableEq, Repr

/-- The text after the blanks and comments at its start; a comment ends with its line. -/
def afterBlanks (inComment : Bool) : List Char → List Char
  | [] => []
  | c :: rest =>
    if inComment then afterBlanks (c != '\n') rest
    else if Text.isBlank c then afterBlanks false rest
    else if c = '#' then afterBlanks true rest
    else c :: rest

theorem length_afterBlanks_le (inComment : Bool) (text : List Char) :
    (afterBlanks inComment text).length ≤ text.length := by
  induction text generalizing inComment with
  | nil => exact Nat.le_refl _
  | cons c rest ih =>
    rw [afterBlanks]
    split
    · exact Nat.le_succ_of_le (ih _)
    · split
      · exact Nat.le_succ_of_le (ih _)
      · split
        · exact Nat.le_succ_of_le (ih _)
        · exact Nat.le_refl _

def Mode.skip (m : Mode) (text : List Char) : List Char :=
  if m.spaced then afterBlanks false text else text

theorem Mode.length_skip_le (m : Mode) (text : List Char) :
    (m.skip text).length ≤ text.length := by
  unfold Mode.skip
  split
  · exact length_afterBlanks_le false text
  · exact Nat.le_refl _

inductive Atom
  /-- A character; `byte` if it is written as a byte, with two hexadecimal digits. -/
  | char (c : Char) (byte : Bool)
  /-- A digit, a blank or a word character, or what is none. -/
  | shorthand (negated : Bool)
  /-- The start or the end of the text. -/
  | edge
  /-- The start or the end of a word, or a place that is neither. -/
  | wordEdge
  deriving DecidableEq, Repr

/-- Whether an atom can stand outside brackets. In bytes nothing may match a part of a
character. -/
def Mode.allows (m : Mode) : Atom → Bool
  | .char c byte => if m.unicode then !m.anyCase else !byte || c.toNat < 128
  | .shorthand negated => !m.unicode && !negated
  | .edge => true
  | .wordEdge => !m.unicode

def Mode.readHex? (m : Mode) : Nat → Nat → List Char → Option (Nat × List Char)
  | 0, n, text => some (n, text)
  | _ + 1, _, [] => none
  | count + 1, n, c :: rest =>
    if Text.isHexDigit c then m.readHex? count (16 * n + Text.hexValue c) (m.skip rest)
    else none

def Mode.readCode? (m : Mode) (count : Nat) (text : List Char) : Option (Atom × List Char) :=
  (m.readHex? count 0 (m.skip text)).bind fun (n, rest) =>
    (Text.scalarValue? n).map fun c => (.char c (count == 2), rest)

/-- The atom of a backslash and one character. Signs stand for themselves; a digit would
refer back to a group, which is not possible, and other letters have no meaning. -/
def escaped? : Char → Option Atom
  | 'd' | 's' | 'w' => some (.shorthand false)
  | 'D' | 'S' | 'W' => some (.shorthand true)
  | 'A' | 'z' => some .edge
  | 'b' | 'B' | '<' | '>' => some .wordEdge
  | 'a' => some (.char '\x07' false)
  | 'f' => some (.char '\x0c' false)
  | 'n' => some (.char '\n' false)
  | 'r' => some (.char '\r' false)
  | 't' => some (.char '\t' false)
  | 'v' => some (.char '\x0b' false)
  | c => if c.toNat < 128 && !c.isAlphanum then some (.char c false) else none

def Mode.readAtom? (m : Mode) : List Char → Option (Atom × List Char)
  | [] => none
  | '\\' :: 'x' :: rest => m.readCode? 2 rest
  | '\\' :: 'u' :: rest => m.readCode? 4 rest
  | '\\' :: 'U' :: rest => m.readCode? 8 rest
  | '\\' :: c :: rest => (escaped? c).map (·, rest)
  | ['\\'] => none
  | c :: rest => some (.char c false, rest)

namespace Mode

theorem length_readHex?_le {m : Mode} {count n : Nat} {text : List Char} {r : Nat × List Char}
    (h : m.readHex? count n text = some r) : r.2.length ≤ text.length := by
  induction count generalizing n text with
  | zero =>
    cases h
    exact Nat.le_refl _
  | succ count ih =>
    cases text with
    | nil => cases h
    | cons c rest =>
      rw [readHex?] at h
      split at h
      · exact Nat.le_succ_of_le (Nat.le_trans (ih h) (m.length_skip_le rest))
      · cases h

theorem length_readCode?_le {m : Mode} {count : Nat} {text : List Char} {r : Atom × List Char}
    (h : m.readCode? count text = some r) : r.2.length ≤ text.length := by
  simp only [readCode?, Option.bind_eq_some_iff, Option.map_eq_some_iff, Prod.exists] at h
  obtain ⟨n, rest, hex, c, _, rfl⟩ := h
  exact Nat.le_trans (length_readHex?_le hex) (m.length_skip_le text)

/-- An atom takes something off the text. -/
theorem length_readAtom?_lt {m : Mode} {text : List Char} {r : Atom × List Char}
    (h : m.readAtom? text = some r) : r.2.length < text.length := by
  have inside {count : Nat} {c d : Char} {rest : List Char} (h : m.readCode? count rest = some r) :
      r.2.length < (c :: d :: rest).length :=
    Nat.lt_succ_of_le (Nat.le_succ_of_le (length_readCode?_le h))
  unfold readAtom? at h
  split at h
  · cases h
  · exact inside h
  · exact inside h
  · exact inside h
  · obtain ⟨atom, _, rfl⟩ := Option.map_eq_some_iff.1 h
    exact Nat.lt_succ_of_lt (Nat.lt_succ_self _)
  · cases h
  · cases h
    exact Nat.lt_succ_self _

end Mode

/-- How deep parts lie that stand side by side. A single part is no deeper for it. -/
def joined : List Nat → Nat
  | [] => 0
  | [depth] => depth
  | depths => depths.foldl max 0 + 1

end WorkerPool.Pattern
