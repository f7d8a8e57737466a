import WorkerPool.Decimal.Reading
import WorkerPool.Log.Event
import WorkerPool.Pattern.Group

/-!
Filters: which events are logged. A filter is a list of directives with commas between them;
of the directives that fit an event, the most specific decides.
-/

namespace WorkerPool.Log

/-- How much a directive lets through: events up to this rank, none at zero. -/
abbrev Verbosity := Nat

def verbosity? (text : List Char) : Option Verbosity :=
  let digits := match text with
    | '+' :: rest => rest
    | _ => text
  if !digits.isEmpty && digits.all Char.isDigit then
    let n := digits.foldl (fun n c => 10 * n + (c.toNat - '0'.toNat)) 0
    if n ≤ 5 then some n else none
  else match String.ofList (text.map Char.toLower) with
    | "" | "error" => some 1
    | "warn" => some 2
    | "info" => some 3
    | "debug" => some 4
    | "trace" => some 5
    | "off" => some 0
    | _ => none

structure FieldPattern where
  name : String
  /-- Whether its value is asked for as well. -/
  valued : Bool
  deriving DecidableEq, Repr

/-- Whether a text can be asked for as a value: a number or a pattern. Truth values are
patterns. -/
def isValuePattern (text : List Char) : Bool :=
  (Decimal.readFloat? text).isSome || Pattern.isPattern text

/-- A name, or a name and a value with an equals sign between them; what follows a second
equals sign does not count. -/
def FieldPattern.parse? (text : List Char) : Option FieldPattern :=
  let name := String.ofList (text.takeWhile (· != '='))
  match text.dropWhile (· != '=') with
  | [] => some ⟨name, false⟩
  | _ :: value =>
    if isValuePattern (value.takeWhile (· != '=')) then some ⟨name, true⟩ else none

structure Directive where
  /-- Events whose target starts with this. -/
  target : Option String := none
  /-- Events inside a span of this name. -/
  span : Option String := none
  fields : List FieldPattern := []
  verbosity : Verbosity := 5
  deriving DecidableEq, Repr

/-- Where in a directive the reader stands; the numbers are positions in its text. -/
inductive Directive.Phase
  | start
  | levelOrTarget (start : Nat)
  | span (start : Nat)
  | field (start : Nat)
  | fieldsEnd
  | spanEnd
  | level (start : Nat)
  deriving DecidableEq, Repr

namespace Directive

def cut (text : List Char) (a b : Nat) : List Char := (text.drop a).take (b - a)

/-- The directive that a text without a level makes: a bare level, or a bare target that lets
everything through. -/
def bare (text : List Char) : Directive :=
  if text.isEmpty then {}
  else match verbosity? text with
    | some v => { verbosity := v }
    | none => { target := some (String.ofList text) }

def advance (text : List Char) (d : Directive) (i : Nat) (c : Char) :
    Phase → Option (Directive × Phase)
  | .start =>
    if c = '[' then some (d, .span (i + 1))
    else if c = '-' ∨ c = ':' ∨ c = '_' ∨ Text.isAlphanumeric c then some (d, .levelOrTarget i)
    else none
  | .levelOrTarget start =>
    if c = '=' then some ({ d with target := String.ofList (cut text start i) }, .level (i + 1))
    else if c = '[' then
      some ({ d with target := String.ofList (cut text start i) }, .span (i + 1))
    else some (d, .levelOrTarget start)
  | .span start =>
    let name := cut text start i
    if c = ']' then some ({ d with span := String.ofList name }, .spanEnd)
    else if c = '\x7b' then
      some ({ d with span := if name.isEmpty then none else some (String.ofList name) },
        .field (i + 1))
    else some (d, .span start)
  | .field start =>
    if c = '\x7d' then
      let pattern := cut text start i
      if pattern.isEmpty then none
      else (FieldPattern.parse? pattern).map fun field =>
        ({ d with fields := d.fields ++ [field] }, .fieldsEnd)
    else some (d, .field start)
  | .fieldsEnd => if c = ']' then some (d, .spanEnd) else none
  | .spanEnd => if c = '=' then some (d, .level (i + 1)) else none
  | .level start => some (d, .level start)

/-- Reads on from position `i`. Positions are counted without the blanks at the ends, and the
parts are cut out of the text with them. -/
def readFrom (text : List Char) (d : Directive) (phase : Phase) (i : Nat) :
    List Char → Option (Directive × Phase)
  | [] => some (d, phase)
  | c :: rest =>
    match advance text d i c phase with
    | none => none
    | some (d, phase) => readFrom text d phase (i + 1) rest

def parse? (text : List Char) : Option Directive :=
  match readFrom text {} .start 0 (Text.trim text) with
  | some (_, .levelOrTarget start) => some (bare (text.drop start))
  | some (d, .level start) =>
    let level := text.drop start
    if level.isEmpty then some d else (verbosity? level).map fun v => { d with verbosity := v }
  | some (d, .spanEnd) => some d
  | _ => none

def isStatic (d : Directive) : Bool := d.span.isNone && d.fields.all fun f => !f.valued

def fits (d : Directive) (e : Event) : Bool :=
  (d.target.all fun t => e.target.startsWith t) &&
    d.fields.all fun f => e.fields.any fun (name, _) => name == f.name

def fieldNames (d : Directive) : List String := d.fields.map (·.name)

/-- Whether the first of two directives that fit an event is less specific than the second:
a longer target counts before more fields, and those before the order of the fields' names. -/
def lessSpecific (a b : Directive) : Bool :=
  let size (d : Directive) : Nat := (d.target.map (·.utf8ByteSize + 1)).getD 0
  size a < size b ||
    (size a == size b &&
      (a.fields.length < b.fields.length ||
        (a.fields.length == b.fields.length && decide (a.fieldNames < b.fieldNames))))

end Directive

structure Filter where
  directives : List Directive
  deriving DecidableEq, Repr

namespace Filter

def fallback : Filter := ⟨[{ target := some "tidepool", verbosity := 3 }]⟩

def pieces (text : List Char) : List (List Char) :=
  match text with
  | [] => [[]]
  | c :: rest =>
    if c = ',' then [] :: pieces rest
    else match pieces rest with
      | [] => [[c]]
      | piece :: more => (c :: piece) :: more

def parse? (text : String) : Option Filter :=
  (((pieces text.toList).filter fun piece => !piece.isEmpty).mapM Directive.parse?).map Filter.mk

/-- The most specific directive that fits; of two alike, the later. -/
def decisive? (f : Filter) (e : Event) : Option Directive :=
  (f.directives.filter fun d => d.isStatic && d.fits e).foldl
    (fun best d => match best with
      | some b => if d.lessSpecific b then some b else some d
      | none => some d) none

def passes (f : Filter) (e : Event) : Bool :=
  (f.decisive? e).any fun d => e.level.rank ≤ d.verbosity

end Filter
end WorkerPool.Log
