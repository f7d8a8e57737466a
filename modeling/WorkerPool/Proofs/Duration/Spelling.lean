import WorkerPool.Duration
import WorkerPool.Proofs.Decimal.Whole
import WorkerPool.Proofs.Text.Edges

/-!
# How durations are spelt

A duration is spelt by a whole number, blanks and a unit; the unit can be left out, and then the number
counts seconds. A text is such a spelling in one way at most. What a text means follows from its
spelling: nothing if the number is zero, else so many units, as long as they are no more milliseconds
than a word holds. A text without a spelling means nothing if it is empty or `off`, and is refused
otherwise.
-/

namespace WorkerPool

inductive TimeUnit
  | millisecond
  | second
  | minute
  | hour
  | day
  deriving DecidableEq, Repr

namespace TimeUnit

def ending : Option TimeUnit → List Char
  | none => []
  | some .millisecond => ['m', 's']
  | some .second => ['s']
  | some .minute => ['m']
  | some .hour => ['h']
  | some .day => ['d']

def millis : TimeUnit → Nat
  | .millisecond => 1
  | .second => 1000
  | .minute => 60 * 1000
  | .hour => 60 * 60 * 1000
  | .day => 24 * 60 * 60 * 1000

end TimeUnit

namespace Duration

open Decimal (sign countMax)

structure Spelling where
  signed : Bool
  digits : List Char
  gap : List Char
  unit : Option TimeUnit
  nonempty : digits ≠ []
  numeral : ∀ c ∈ digits, c.isDigit = true
  blank : ∀ c ∈ gap, Text.isBlank c = true

namespace Spelling

def number (s : Spelling) : List Char := sign s.signed ++ s.digits

def text (s : Spelling) : List Char := s.number ++ s.gap ++ TimeUnit.ending s.unit

def count (s : Spelling) : Nat := Nat.ofDigitChars 10 s.digits 0

/-- The length of the unit in milliseconds; without a unit it is a second. -/
def scale (s : Spelling) : Nat := (s.unit.getD .second).millis

end Spelling

/-- What a text means that is trimmed and in lower case. -/
inductive Means : List Char → Except Error (Option Duration) → Prop
  | empty : Means [] (.ok none)
  | off : Means ['o', 'f', 'f'] (.ok none)
  | zero (s : Spelling) (zero : s.count = 0) : Means s.text (.ok none)
  | length (s : Spelling) (readable : s.count ≤ countMax) (positive : 0 < s.count * s.scale)
      (bounded : s.count * s.scale ≤ countMax) : Means s.text (.ok (some (.ofMillis (s.count * s.scale))))
  | outOfRange (s : Spelling) (readable : s.count ≤ countMax) (long : countMax < s.count * s.scale) :
      Means s.text (.error (.outOfRange (String.ofList s.text)))
  | invalid {text : List Char} (nonempty : text ≠ []) (notOff : text ≠ ['o', 'f', 'f'])
      (unreadable : ∀ s : Spelling, s.text = text → countMax < s.count) :
      Means text (.error (.invalid (String.ofList text)))

variable {text number : List Char} {length n : Nat} {s : Spelling} {result : Except Error (Option Duration)}

theorem units_eq : units = [.millisecond, .second, .minute, .hour, .day].map
    fun u : TimeUnit => (TimeUnit.ending (some u), u.millis) := rfl

/-- What is split off is a unit, or nothing. -/
theorem exists_unit (parts : splitUnit text = (number, length)) :
    ∃ unit : Option TimeUnit, text = number ++ TimeUnit.ending unit ∧ length = (unit.getD .second).millis := by
  unfold splitUnit at parts
  generalize found : units.findSome? _ = split at parts
  cases split with
  | none =>
    cases parts
    exact ⟨none, (List.append_nil _).symm, rfl⟩
  | some split =>
    cases parts
    obtain ⟨⟨ending, length⟩, member, fits⟩ := List.exists_of_findSome?_eq_some found
    rw [units_eq] at member
    obtain ⟨u, -, same⟩ := List.mem_map.mp member
    obtain ⟨rfl, rfl⟩ := Prod.mk.inj same
    simp only at fits
    split at fits
    · rename_i suffix
      cases fits
      have whole := List.suffix_iff_eq_append.mp (List.isSuffixOf_iff_suffix.mp suffix)
      exact ⟨some u, whole.symm, rfl⟩
    · cases fits

/-- A unit behind a text that does not end in a letter of a unit is split off. -/
theorem splitUnit_append (plain : ∀ c ∈ number.getLast?, c ∉ ['m', 's', 'h', 'd']) (nonempty : number ≠ [])
    (unit : Option TimeUnit) :
    splitUnit (number ++ TimeUnit.ending unit) = (number, (unit.getD .second).millis) := by
  obtain ⟨front, c, rfl⟩ : ∃ front c, number = front ++ [c] :=
    ⟨_, _, (List.dropLast_concat_getLast nonempty).symm⟩
  have plain : 'm' ≠ c ∧ 's' ≠ c ∧ 'h' ≠ c ∧ 'd' ≠ c := by
    simpa [eq_comm] using plain
  unfold splitUnit units
  cases unit with
  | none => simp [TimeUnit.ending, List.findSome?, List.isSuffixOf, List.isPrefixOf, plain, TimeUnit.millis]
  | some unit =>
    have kept : ∀ rest, (front ++ c :: rest).take (front.length + 1) = front ++ [c] := by
      simp [List.take_append, List.take_of_length_le]
    -- No ending that is tried before the unit's own fits, as it has another letter or needs one more.
    cases unit <;>
      simp [TimeUnit.ending, List.findSome?, List.isSuffixOf, List.isPrefixOf, plain, TimeUnit.millis, kept]

namespace Spelling

theorem scale_pos (s : Spelling) : 0 < s.scale := by
  unfold scale
  cases s.unit.getD .second <;> decide

theorem number_ne_nil (s : Spelling) : s.number ≠ [] :=
  List.append_ne_nil_of_right_ne_nil _ s.nonempty

theorem mem_number {c : Char} (member : c ∈ s.number) : c = '+' ∨ c.isDigit = true := by
  rcases List.mem_append.mp member with signed | digit
  · unfold sign at signed
    split at signed
    · exact .inl (List.mem_singleton.mp signed)
    · cases signed
  · exact .inr (s.numeral c digit)

theorem not_isBlank {c : Char} (member : c ∈ s.number) : Text.isBlank c = false := by
  rcases mem_number member with rfl | digit
  · decide
  · exact Text.isBlank_of_isDigit digit

theorem text_ne_nil (s : Spelling) : s.text ≠ [] := by
  unfold text
  rw [List.append_assoc]
  exact List.append_ne_nil_of_left_ne_nil s.number_ne_nil _

theorem text_ne_off (s : Spelling) : s.text ≠ ['o', 'f', 'f'] := by
  intro off
  obtain ⟨c, rest, number⟩ := List.exists_cons_of_ne_nil s.number_ne_nil
  have first := mem_number (number ▸ List.mem_cons_self : c ∈ s.number)
  unfold text at off
  rw [number] at off
  obtain rfl : c = 'o' := (List.cons.inj off).1
  rcases first with plus | digit
  · cases plus
  · cases digit

theorem trim_number (s : Spelling) : Text.trim (s.number ++ s.gap) = s.number := by
  have first : Text.Flush (s.number ++ s.gap) :=
    (Text.flush_of_forall fun _ => not_isBlank).append s.number_ne_nil s.gap
  have last : Text.Flush s.number.reverse :=
    Text.flush_of_forall fun c member => not_isBlank (List.mem_reverse.mp member)
  rw [Text.trim, Text.trimLeft_of_flush first, Text.trimRight_append s.blank last]

theorem splitUnit_text (s : Spelling) : splitUnit s.text = (s.number ++ s.gap, s.scale) := by
  apply splitUnit_append
  · intro c last letter
    obtain ⟨plus, digit, mark⟩ : c ≠ '+' ∧ c.isDigit = false ∧ Text.isBlank c = false := by
      simp only [List.mem_cons, List.not_mem_nil, or_false] at letter
      rcases letter with rfl | rfl | rfl | rfl <;> decide
    rcases List.mem_append.mp (List.mem_of_getLast? last) with number | gap
    · rcases mem_number number with same | numeral
      · exact plus same
      · rw [digit] at numeral
        cases numeral
    · rw [s.blank c gap] at mark
      cases mark
  · exact List.append_ne_nil_of_left_ne_nil s.number_ne_nil _

theorem readCount_number (s : Spelling) (readable : s.count ≤ countMax) :
    Decimal.readCount s.number = .ok s.count :=
  Decimal.readNat_of_digits s.numeral s.nonempty readable s.signed

end Spelling

/-- A text that is not off is read as a number and a unit; for a zero alone this comes to the same. -/
theorem read_eq (nonempty : text ≠ []) (notOff : text ≠ ['o', 'f', 'f']) (parts : splitUnit text = (number, length)) :
    read text = match Decimal.readCount (Text.trim number) with
      | .error _ => .error (.invalid (String.ofList text))
      | .ok n =>
        if n * length = 0 then .ok none
        else if n * length ≤ countMax then .ok (some (ofMillis (n * length)))
        else .error (.outOfRange (String.ofList text)) := by
  by_cases zero : text = ['0']
  · subst zero
    cases parts
    have counted : Decimal.readCount (Text.trim ['0']) = .ok 0 := rfl
    rw [counted]
    rfl
  · have special : ¬ (text = ['o', 'f', 'f'] ∨ text = ['0'] ∨ text = []) := by
      simp [notOff, zero, nonempty]
    cases counted : Decimal.readCount (Text.trim number) with
    | error e => simp only [Duration.read, if_neg special, parts, counted]
    | ok n => simp only [Duration.read, if_neg special, parts, counted]

theorem Spelling.read_text (s : Spelling) (readable : s.count ≤ countMax) :
    read s.text =
      if s.count * s.scale = 0 then .ok none
      else if s.count * s.scale ≤ countMax then .ok (some (ofMillis (s.count * s.scale)))
      else .error (.outOfRange (String.ofList s.text)) := by
  rw [read_eq s.text_ne_nil s.text_ne_off s.splitUnit_text, s.trim_number, s.readCount_number readable]

/-- What is read as a number with a unit is spelt so. The number begins the text, which therefore has
no blanks in front of the number. -/
theorem exists_spelling (flush : Text.Flush text) (parts : splitUnit text = (number, length))
    (counted : Decimal.readCount (Text.trim number) = .ok n) :
    ∃ s : Spelling, s.text = text ∧ s.count ≤ countMax := by
  obtain ⟨unit, rfl, -⟩ := exists_unit parts
  obtain ⟨gap, padded, blank⟩ := Text.exists_trimRight number
  rw [Text.trim, Text.trimLeft_of_flush flush.of_append] at counted
  obtain ⟨signed, digits, spelt, nonempty, numeral, rfl, bounded⟩ := Decimal.exists_digits_of_readNat counted
  let s : Spelling := { signed, digits, gap, unit, nonempty, numeral, blank }
  have same : s.number ++ gap = number := by
    rw [padded, spelt]
    rfl
  refine ⟨s, ?_, bounded⟩
  rw [Spelling.text, same]

theorem Means.read (means : Means text result) (flush : Text.Flush text) : read text = result := by
  cases means with
  | empty => rfl
  | off => rfl
  | zero s zero =>
    have readable : s.count ≤ countMax := by simp [zero]
    rw [s.read_text readable, if_pos (by simp [zero])]
  | length s readable positive bounded =>
    rw [s.read_text readable, if_neg (Nat.ne_of_gt positive), if_pos bounded]
  | outOfRange s readable long =>
    have positive : s.count * s.scale ≠ 0 := Nat.ne_of_gt (Nat.lt_of_le_of_lt (Nat.zero_le _) long)
    rw [s.read_text readable, if_neg positive, if_neg (Nat.not_le_of_lt long)]
  | invalid nonempty notOff unreadable =>
    cases parts : splitUnit text with
    | mk number length =>
    rw [read_eq nonempty notOff parts]
    cases counted : Decimal.readCount (Text.trim number) with
    | error e => rfl
    | ok n =>
      obtain ⟨s, spelt, readable⟩ := exists_spelling flush parts counted
      exact absurd readable (Nat.not_le_of_lt (unreadable s spelt))

theorem exists_means (text : List Char) : ∃ result, Means text result := by
  by_cases nonempty : text = []
  · exact ⟨_, nonempty ▸ Means.empty⟩
  by_cases notOff : text = ['o', 'f', 'f']
  · exact ⟨_, notOff ▸ Means.off⟩
  by_cases readable : ∃ s : Spelling, s.text = text ∧ s.count ≤ countMax
  · obtain ⟨s, rfl, readable⟩ := readable
    by_cases zero : s.count = 0
    · exact ⟨_, .zero s zero⟩
    have positive : 0 < s.count * s.scale := Nat.mul_pos (Nat.pos_of_ne_zero zero) s.scale_pos
    by_cases bounded : s.count * s.scale ≤ countMax
    · exact ⟨_, .length s readable positive bounded⟩
    · exact ⟨_, .outOfRange s readable (Nat.lt_of_not_le bounded)⟩
  · refine ⟨_, .invalid nonempty notOff ?_⟩
    intro s spelt
    exact Nat.lt_of_not_le fun bounded => readable ⟨s, spelt, bounded⟩

section Runs

variable {run run' rest rest' : List Char} {p : Char → Bool}

theorem takeWhile_run (all : ∀ c ∈ run, p c = true) (stops : ∀ c ∈ rest.head?, p c = false) :
    (run ++ rest).takeWhile p = run := by
  rw [List.takeWhile_append_of_pos all]
  cases rest with
  | nil => simp
  | cons c rest => simp [stops c rfl]

/-- Where a run of characters of one kind ends is told by the text. -/
theorem run_unique (all : ∀ c ∈ run, p c = true) (all' : ∀ c ∈ run', p c = true)
    (stops : ∀ c ∈ rest.head?, p c = false) (stops' : ∀ c ∈ rest'.head?, p c = false)
    (same : run ++ rest = run' ++ rest') : run = run' ∧ rest = rest' := by
  have runs : run = run' := by
    calc run
      _ = (run ++ rest).takeWhile p := (takeWhile_run all stops).symm
      _ = (run' ++ rest').takeWhile p := by rw [same]
      _ = run' := takeWhile_run all' stops'
  subst runs
  exact ⟨rfl, List.append_cancel_left same⟩

end Runs

theorem head_ending (unit : Option TimeUnit) :
    ∀ c ∈ (TimeUnit.ending unit).head?, c.isDigit = false ∧ Text.isBlank c = false := by
  cases unit with
  | none => exact nofun
  | some unit => cases unit <;> simp [TimeUnit.ending] <;> decide

theorem ending_injective {unit other : Option TimeUnit} (same : TimeUnit.ending unit = TimeUnit.ending other) :
    unit = other := by
  rcases unit with _ | unit <;> rcases other with _ | other
  · rfl
  · cases other <;> cases same
  · cases unit <;> cases same
  · cases unit <;> cases other <;> simp [TimeUnit.ending] at same ⊢

namespace Spelling

theorem head_gap (s : Spelling) : ∀ c ∈ (s.gap ++ TimeUnit.ending s.unit).head?, c.isDigit = false := by
  intro c first
  cases gap : s.gap with
  | nil =>
    rw [gap] at first
    exact (head_ending s.unit c first).1
  | cons b rest =>
    rw [gap] at first
    cases first
    have blank := s.blank c (gap ▸ List.mem_cons_self)
    apply Bool.eq_false_iff.mpr
    intro digit
    rw [Text.isBlank_of_isDigit digit] at blank
    cases blank

theorem head_text (s : Spelling) : s.text.head? = some '+' ↔ s.signed = true := by
  unfold text number
  cases s.signed with
  | true => exact ⟨fun _ => rfl, fun _ => rfl⟩
  | false =>
    obtain ⟨c, rest, digits⟩ := List.exists_cons_of_ne_nil s.nonempty
    have digit := s.numeral c (digits ▸ List.mem_cons_self)
    rw [digits]
    refine ⟨?_, nofun⟩
    intro plus
    obtain rfl : c = '+' := Option.some.inj plus
    cases digit

theorem text_injective {s s' : Spelling} (same : s.text = s'.text) : s = s' := by
  have signs : s.signed = s'.signed := by
    rw [Bool.eq_iff_iff, ← head_text, ← head_text, same]
  unfold text number at same
  rw [signs, List.append_assoc, List.append_assoc, List.append_assoc, List.append_assoc] at same
  obtain ⟨digits, same⟩ := run_unique s.numeral s'.numeral s.head_gap s'.head_gap (List.append_cancel_left same)
  obtain ⟨gap, same⟩ := run_unique s.blank s'.blank (fun c first => (head_ending _ c first).2)
    (fun c first => (head_ending _ c first).2) same
  have unit := ending_injective same
  cases s
  cases s'
  simp only at signs digits gap unit
  subst signs digits gap unit
  rfl

end Spelling

/-- A text means what its spelling says, and it has one spelling at most. -/
theorem parse_eq_iff_means :
    (∀ (text : String) (result : Except Error (Option Duration)),
        parse text = result ↔ Means (Text.lower (Text.trim text.toList)) result) ∧
      ∀ s s' : Spelling, s.text = s'.text → s = s' := by
  refine ⟨?_, fun s s' => Spelling.text_injective⟩
  intro text result
  have flush := (Text.flush_trim text.toList).lower
  constructor
  · rintro rfl
    obtain ⟨result, means⟩ := exists_means (Text.lower (Text.trim text.toList))
    have read : parse text = result := means.read flush
    rwa [read]
  · intro means
    exact means.read flush

example : parse " +015 M\t" = .ok (some (.ofMillis 900000)) := by cbv

end Duration
end WorkerPool
