import WorkerPool.Pattern.Bracket
import WorkerPool.Text.Alphanumeric

/-!
Whole patterns: parts in sequence, repeated or in groups, and alternatives with bars between
them. Nothing is matched here; `isPattern` says which texts are patterns that can be matched.
-/

namespace WorkerPool.Pattern

structure Part where
  depth : Nat := 0
  /-- Whether a sign of repetition can follow. -/
  repeatable : Bool := true
  deriving DecidableEq, Repr

/-- A group that is open, or the pattern itself, by what has been read of it. -/
structure Group where
  /-- How the text after the group is read. -/
  outside : Mode := {}
  /-- How deep the alternatives before the last bar lie. -/
  alternatives : List Nat := []
  /-- The parts of the alternative at hand, last first. -/
  parts : List Part := []
  deriving DecidableEq, Repr

namespace Group

def add (g : Group) (p : Part) : Group := { g with parts := p :: g.parts }

def sequenceDepth (g : Group) : Nat := joined (g.parts.map (·.depth))

def depth (g : Group) : Nat := joined (g.sequenceDepth :: g.alternatives)

def bar (g : Group) : Group :=
  { g with alternatives := g.sequenceDepth :: g.alternatives, parts := [] }

def repeatLast? (g : Group) : Option Group :=
  match g.parts with
  | [] => none
  | p :: rest => if p.repeatable then some { g with parts := ⟨p.depth + 1, true⟩ :: rest } else none

end Group

structure Reader where
  mode : Mode := {}
  /-- The names of groups so far. -/
  names : List (List Char) := []
  group : Group := {}
  /-- The groups around `group`, innermost first. -/
  enclosing : List Group := []
  deriving DecidableEq, Repr

/-- Letters that switch a way of reading on, or off after a hyphen: each sign once, and the
hyphen not last. -/
def areSwitches (letters : List Char) : Bool :=
  letters.all ("imsUuxR-".toList.contains ·) && letters.eraseDups == letters &&
    letters.getLast? != some '-'

/-- The mode after switches. Those that change only what is matched leave it alone. -/
def Mode.switch (m : Mode) (letters : List Char) : Mode :=
  let on := letters.takeWhile (· != '-')
  let off := letters.dropWhile (· != '-')
  let state (letter : Char) (before : Bool) : Bool :=
    on.contains letter || (before && !off.contains letter)
  { anyCase := state 'i' m.anyCase, unicode := state 'u' m.unicode, spaced := state 'x' m.spaced }

def isGroupName : List Char → Bool
  | [] => false
  | c :: rest =>
    (c == '_' || Text.isAlphabetic c) &&
      rest.all fun c => c == '_' || c == '.' || c == '[' || c == ']' || Text.isAlphanumeric c

namespace Reader

def add (s : Reader) (p : Part) : Reader := { s with group := s.group.add p }

def enter (s : Reader) (mode : Mode) : Reader :=
  { s with mode, group := { outside := s.mode }, enclosing := s.group :: s.enclosing }

def leave? (s : Reader) : Option Reader :=
  match s.enclosing with
  | [] => none
  | g :: enclosing =>
    some { s with
      mode := s.group.outside
      group := g.add { depth := s.group.depth + 1 }
      enclosing }

def enterNamed? (s : Reader) (text : List Char) : Option (Reader × List Char) :=
  let name := text.takeWhile (· != '>')
  match text.dropWhile (· != '>') with
  | [] => none
  | _ :: rest =>
    if isGroupName name && !s.names.contains name then
      some ({ s.enter s.mode with names := name :: s.names }, rest)
    else none

/-- Follows switches up to their end: a colon opens a group that they hold in, and without it
they hold up to the end of the group at hand. -/
def switched? (s : Reader) (text : List Char) : Option (Reader × List Char) :=
  let isEnd (c : Char) : Bool := c == ':' || c == ')'
  let letters := text.takeWhile (!isEnd ·)
  if areSwitches letters then
    match text.dropWhile (!isEnd ·) with
    | ':' :: rest => some (s.enter (s.mode.switch letters), rest)
    | ')' :: rest =>
      if letters.isEmpty then none
      else some ({ s with mode := s.mode.switch letters }.add { repeatable := false }, rest)
    | _ => none
  else none

def opened? (s : Reader) (text : List Char) : Option (Reader × List Char) :=
  match s.mode.skip text with
  | '?' :: 'P' :: '<' :: rest | '?' :: '<' :: rest => s.enterNamed? rest
  | '?' :: rest => s.switched? rest
  | rest => some (s.enter s.mode, rest)

/-- Reads one part or sign. A count of repetitions would need braces, and is not known. -/
def step? (s : Reader) (text : List Char) : Option (Reader × List Char) :=
  match text with
  | '(' :: rest => s.opened? rest
  | ')' :: rest => s.leave?.map (·, rest)
  | '|' :: rest => some ({ s with group := s.group.bar }, rest)
  | '[' :: rest => (s.mode.readSet? rest).map fun (depth, rest) => (s.add { depth }, rest)
  | '?' :: rest | '*' :: rest | '+' :: rest =>
    s.group.repeatLast?.map fun group => ({ s with group }, rest)
  | '\x7b' :: _ => none
  | '.' :: rest => if s.mode.unicode then some (s.add {}, rest) else none
  | '^' :: rest | '$' :: rest => some (s.add {}, rest)
  | text =>
    (s.mode.readAtom? text).bind fun (atom, rest) =>
      if s.mode.allows atom then some (s.add {}, rest) else none

theorem length_enterNamed?_le {s : Reader} {text : List Char} {r : Reader × List Char}
    (h : s.enterNamed? text = some r) : r.2.length ≤ text.length := by
  have shorter := (List.dropWhile_suffix (l := text) (· != '>')).length_le
  unfold enterNamed? at h
  dsimp only at h
  split at h
  · cases h
  · next eq =>
    rw [eq] at shorter
    split at h
    · cases h
      exact Nat.le_of_succ_le shorter
    · cases h

theorem length_switched?_le {s : Reader} {text : List Char} {r : Reader × List Char}
    (h : s.switched? text = some r) : r.2.length ≤ text.length := by
  have shorter := (List.dropWhile_suffix (l := text) (fun c => !(c == ':' || c == ')'))).length_le
  unfold switched? at h
  dsimp only at h
  split at h
  · split at h
    · next eq =>
      rw [eq] at shorter
      cases h
      exact Nat.le_of_succ_le shorter
    · next eq =>
      rw [eq] at shorter
      split at h
      · cases h
      · cases h
        exact Nat.le_of_succ_le shorter
    · cases h
  · cases h

theorem length_opened?_le {s : Reader} {text : List Char} {r : Reader × List Char}
    (h : s.opened? text = some r) : r.2.length ≤ text.length := by
  have skipped := s.mode.length_skip_le text
  unfold opened? at h
  split at h
  · next eq =>
    rw [eq] at skipped
    have := length_enterNamed?_le h
    simp only [List.length_cons] at skipped
    omega
  · next eq =>
    rw [eq] at skipped
    have := length_enterNamed?_le h
    simp only [List.length_cons] at skipped
    omega
  · next eq =>
    rw [eq] at skipped
    exact Nat.le_trans (length_switched?_le h) (Nat.le_of_succ_le skipped)
  · cases h
    exact skipped

/-- A step takes something off the text. -/
theorem length_step?_lt {s : Reader} {text : List Char} {r : Reader × List Char}
    (h : s.step? text = some r) : r.2.length < text.length := by
  unfold step? at h
  split at h
  · exact Nat.lt_succ_of_le (length_opened?_le h)
  · obtain ⟨_, _, rfl⟩ := Option.map_eq_some_iff.1 h
    exact Nat.lt_succ_self _
  · cases h
    exact Nat.lt_succ_self _
  · obtain ⟨set, eq, rfl⟩ := Option.map_eq_some_iff.1 h
    exact Nat.lt_succ_of_lt (Mode.length_readSet?_lt eq)
  · obtain ⟨_, _, rfl⟩ := Option.map_eq_some_iff.1 h
    exact Nat.lt_succ_self _
  · obtain ⟨_, _, rfl⟩ := Option.map_eq_some_iff.1 h
    exact Nat.lt_succ_self _
  · obtain ⟨_, _, rfl⟩ := Option.map_eq_some_iff.1 h
    exact Nat.lt_succ_self _
  · cases h
  · split at h
    · cases h
      exact Nat.lt_succ_self _
    · cases h
  · cases h
    exact Nat.lt_succ_self _
  · cases h
    exact Nat.lt_succ_self _
  · obtain ⟨⟨atom, rest⟩, eq, h⟩ := Option.bind_eq_some_iff.1 h
    dsimp only at h
    split at h
    · cases h
      exact Mode.length_readAtom?_lt eq
    · cases h

def finish? (s : Reader) (text : List Char) : Option Reader :=
  match _left : s.mode.skip text with
  | [] => some s
  | c :: rest =>
    match _step : s.step? (c :: rest) with
    | none => none
    | some (next, rest) => next.finish? rest
termination_by text.length
decreasing_by exact Nat.lt_of_lt_of_le (_left ▸ length_step?_lt _step) (s.mode.length_skip_le text)

end Reader

def maxDepth : Nat := 250

def isPattern (text : List Char) : Bool :=
  (Reader.finish? {} text).any fun s => s.enclosing.isEmpty && s.group.depth ≤ maxDepth

end WorkerPool.Pattern
