import WorkerPool.Pattern.Atom

/-!
Sets of characters between brackets: single characters, ranges, named sets, brackets inside
brackets, and what two such lists have in common or not.
-/

namespace WorkerPool.Pattern

structure Bracket where
  /-- Nothing but hyphens has been read, which stand for themselves here. -/
  fresh : Bool := true
  /-- How deep the part before the last operator lies. -/
  left : Option Nat := none
  /-- How deep the members since then lie. -/
  members : List Nat := []
  deriving DecidableEq, Repr

namespace Bracket

def depth (b : Bracket) : Nat := joined (b.left.toList ++ [joined b.members])

def add (b : Bracket) (depth : Nat) : Bracket :=
  { b with fresh := false, members := depth :: b.members }

def operator (b : Bracket) : Bracket := { fresh := false, left := some b.depth }

end Bracket

def setNames : List String :=
  ["alnum", "alpha", "ascii", "blank", "cntrl", "digit", "graph", "lower", "print", "punct",
    "space", "upper", "word", "xdigit"]

def afterSetName? (text : List Char) : Option (List Char) :=
  match text.dropWhile (· != ':') with
  | ':' :: ']' :: rest =>
    if setNames.contains (String.ofList (text.takeWhile (· != ':'))) then some rest else none
  | _ => none

/-- Reads a named set after its bracket: whether it stands for all but its characters, with
what follows. -/
def namedSet? : List Char → Option (Bool × List Char)
  | ':' :: '^' :: rest => (afterSetName? rest).map (true, ·)
  | ':' :: rest => (afterSetName? rest).map (false, ·)
  | _ => none

theorem length_afterSetName?_le {text rest : List Char} (h : afterSetName? text = some rest) :
    rest.length ≤ text.length := by
  have shorter := (List.dropWhile_suffix (l := text) (· != ':')).length_le
  unfold afterSetName? at h
  split at h
  · next eq =>
    rw [eq] at shorter
    split at h
    · cases h
      exact Nat.le_of_succ_le (Nat.le_of_succ_le shorter)
    · cases h
  · cases h

theorem length_namedSet?_le {text : List Char} {r : Bool × List Char}
    (h : namedSet? text = some r) : r.2.length ≤ text.length := by
  unfold namedSet? at h
  split at h
  · obtain ⟨rest, eq, rfl⟩ := Option.map_eq_some_iff.1 h
    exact Nat.le_succ_of_le (Nat.le_succ_of_le (length_afterSetName?_le eq))
  · obtain ⟨rest, eq, rfl⟩ := Option.map_eq_some_iff.1 h
    exact Nat.le_succ_of_le (length_afterSetName?_le eq)
  · cases h

namespace Mode

def allowsMember (m : Mode) : Atom → Bool
  | .char c _ => if m.unicode then !m.anyCase else c.toNat < 128
  | .shorthand negated => !m.unicode && !negated
  | .edge | .wordEdge => false

/-- Whether a named set can be a member. In bytes a set may not stand for all but some
characters, since it would match a part of a character. -/
def allowsNamed (m : Mode) (negated : Bool) : Bool := if m.unicode then !m.anyCase else !negated

/-- The character that decides whether the hyphen before `text` makes a range. -/
def peek? (m : Mode) (text : List Char) : Option Char :=
  if m.spaced then
    match text.dropWhile Text.isBlank with
    | '#' :: rest => (rest.dropWhile Text.isBlank).head?
    | rest => rest.head?
  else text.head?

def readMember? (m : Mode) (text : List Char) : Option (List Char) :=
  (m.readAtom? text).bind fun (first, rest) =>
    let single := if m.allowsMember first then some (m.skip rest) else none
    match m.skip rest with
    | '-' :: after =>
      if m.peek? after = some ']' ∨ m.peek? after = some '-' then single
      else
        (m.readAtom? (m.skip after)).bind fun (last, rest) =>
          match first, last with
          | .char a _, .char b _ =>
            if a ≤ b ∧ m.allowsMember first ∧ m.allowsMember last then some rest else none
          | _, _ => none
    | _ => single

def openBracket? (m : Mode) (text : List Char) : Option (Bracket × List Char) :=
  match m.skip text with
  | '^' :: rest => if m.unicode then some ({}, rest) else none
  | rest => some ({}, rest)

theorem length_readMember?_lt {m : Mode} {text rest : List Char}
    (h : m.readMember? text = some rest) : rest.length < text.length := by
  obtain ⟨⟨first, left⟩, atom, h⟩ := Option.bind_eq_some_iff.1 h
  have shorter : (m.skip left).length < text.length :=
    Nat.lt_of_le_of_lt (m.length_skip_le left) (length_readAtom?_lt atom)
  have single {rest : List Char}
      (h : (if m.allowsMember first then some (m.skip left) else none) = some rest) :
      rest.length < text.length := by
    split at h
    · cases h
      exact shorter
    · cases h
  dsimp only at h
  split at h
  · next after eq =>
    split at h
    · exact single h
    · obtain ⟨⟨last, tail⟩, atom, h⟩ := Option.bind_eq_some_iff.1 h
      rw [eq] at shorter
      have ranged : tail.length < text.length :=
        Nat.lt_trans (Nat.lt_of_lt_of_le (length_readAtom?_lt atom) (m.length_skip_le after))
          (Nat.lt_of_succ_lt shorter)
      dsimp only at h
      split at h
      · split at h
        · cases h
          exact ranged
        · cases h
      · cases h
  · exact single h

theorem length_openBracket?_le {m : Mode} {text : List Char} {r : Bracket × List Char}
    (h : m.openBracket? text = some r) : r.2.length ≤ text.length := by
  have skipped := m.length_skip_le text
  unfold openBracket? at h
  split at h
  · next eq =>
    rw [eq] at skipped
    split at h
    · cases h
      exact Nat.le_of_succ_le skipped
    · cases h
  · cases h
    exact skipped

end Mode

inductive Progress
  /-- Inside a bracket that stands inside others. -/
  | inside (b : Bracket) (outer : List Bracket)
  /-- After the outermost bracket. -/
  | closed (depth : Nat)
  deriving DecidableEq, Repr

namespace Mode

def bracketStep? (m : Mode) (b : Bracket) (outer : List Bracket) :
    List Char → Option (Progress × List Char)
  | [] => none
  | c :: rest =>
    if b.fresh && (c == '-' || (c == ']' && b.members.isEmpty)) then
      if m.allowsMember (.char c false) then
        some (.inside { b.add 0 with fresh := c == '-' } outer, rest)
      else none
    else match c, rest with
      | '[', rest =>
        match namedSet? rest with
        | some (negated, rest) =>
          if m.allowsNamed negated then some (.inside (b.add 0) outer, rest) else none
        | none => (m.openBracket? rest).map fun (inner, rest) => (.inside inner (b :: outer), rest)
      | ']', rest =>
        match outer with
        | [] => some (.closed (b.depth + 1), rest)
        | parent :: outer => some (.inside (parent.add (b.depth + 1)) outer, rest)
      | '&', '&' :: rest | '-', '-' :: rest | '~', '~' :: rest =>
        some (.inside b.operator outer, rest)
      | c, rest => (m.readMember? (c :: rest)).map (.inside (b.add 0) outer, ·)

/-- A step takes something off the text. -/
theorem length_bracketStep?_lt {m : Mode} {b : Bracket} {outer : List Bracket}
    {text : List Char} {r : Progress × List Char} (h : m.bracketStep? b outer text = some r) :
    r.2.length < text.length := by
  unfold bracketStep? at h
  split at h
  · cases h
  · split at h
    · split at h
      · cases h
        exact Nat.lt_succ_self _
      · cases h
    · split at h
      · split at h
        · next eq =>
          split at h
          · cases h
            exact Nat.lt_succ_of_le (length_namedSet?_le eq)
          · cases h
        · obtain ⟨opened, eq, rfl⟩ := Option.map_eq_some_iff.1 h
          exact Nat.lt_succ_of_le (length_openBracket?_le eq)
      · split at h
        · cases h
          exact Nat.lt_succ_self _
        · cases h
          exact Nat.lt_succ_self _
      · cases h
        exact Nat.lt_succ_of_lt (Nat.lt_succ_self _)
      · cases h
        exact Nat.lt_succ_of_lt (Nat.lt_succ_self _)
      · cases h
        exact Nat.lt_succ_of_lt (Nat.lt_succ_self _)
      · obtain ⟨rest, eq, rfl⟩ := Option.map_eq_some_iff.1 h
        exact length_readMember?_lt eq

/-- Reads on up to the end of the outermost bracket: how deep it is, with what follows. -/
def readBrackets? (m : Mode) (b : Bracket) (outer : List Bracket) (text : List Char) :
    Option (Nat × List Char) :=
  match _step : m.bracketStep? b outer (m.skip text) with
  | none => none
  | some (.closed depth, rest) => some (depth, rest)
  | some (.inside b outer, rest) => m.readBrackets? b outer rest
termination_by text.length
decreasing_by exact Nat.lt_of_lt_of_le (length_bracketStep?_lt _step) (m.length_skip_le text)

theorem length_readBrackets?_lt {m : Mode} {b : Bracket} {outer : List Bracket}
    {text : List Char} {r : Nat × List Char} (h : m.readBrackets? b outer text = some r) :
    r.2.length < text.length := by
  fun_induction readBrackets? m b outer text with
  | case1 => cases h
  | case2 b outer text depth rest eq =>
    cases h
    exact Nat.lt_of_lt_of_le (length_bracketStep?_lt eq) (m.length_skip_le text)
  | case3 b outer text b' outer' rest eq ih =>
    exact Nat.lt_trans (ih h)
      (Nat.lt_of_lt_of_le (length_bracketStep?_lt eq) (m.length_skip_le text))

def readSet? (m : Mode) (text : List Char) : Option (Nat × List Char) :=
  (m.openBracket? text).bind fun (b, rest) => m.readBrackets? b [] rest

theorem length_readSet?_lt {m : Mode} {text : List Char} {r : Nat × List Char}
    (h : m.readSet? text = some r) : r.2.length < text.length := by
  obtain ⟨opened, eq, h⟩ := Option.bind_eq_some_iff.1 h
  exact Nat.lt_of_lt_of_le (length_readBrackets?_lt h) (length_openBracket?_le eq)

end Mode
end WorkerPool.Pattern
