import WorkerPool.Text.Classes
import WorkerPool.Text.Lowercase

/-!
# The ends of a text

Trimming takes away the blanks at both ends and nothing else. No character has a blank for its small
form, so a text that does not begin with a blank does not begin with one in lower case.
-/

namespace WorkerPool.Text

variable {text core gap : List Char} {c d : Char}

/-- Whether a text does not begin with a blank. -/
def Flush (text : List Char) : Prop := ∀ c ∈ text.head?, isBlank c = false

theorem flush_nil : Flush [] := nofun

theorem flush_cons (rest : List Char) : Flush (c :: rest) ↔ isBlank c = false := by
  simp [Flush]

theorem Flush.of_append (flush : Flush (core ++ gap)) : Flush core := by
  cases core with
  | nil => exact flush_nil
  | cons c rest => exact (flush_cons rest).mpr ((flush_cons (rest ++ gap)).mp flush)

theorem Flush.append (flush : Flush core) (nonempty : core ≠ []) (gap : List Char) : Flush (core ++ gap) := by
  obtain ⟨c, rest, rfl⟩ := List.exists_cons_of_ne_nil nonempty
  exact (flush_cons (rest ++ gap)).mpr ((flush_cons rest).mp flush)

theorem flush_of_forall (marks : ∀ c ∈ text, isBlank c = false) : Flush text := by
  intro c first
  exact marks c (List.mem_of_mem_head? first)

theorem trimLeft_of_flush (flush : Flush text) : trimLeft text = text := by
  cases text with
  | nil => rfl
  | cons c rest =>
    have mark := (flush_cons rest).mp flush
    exact List.dropWhile_cons_of_neg (by simp [mark])

theorem flush_trimLeft (text : List Char) : Flush (trimLeft text) := by
  induction text with
  | nil => exact flush_nil
  | cons c rest ih =>
    unfold trimLeft at ih ⊢
    rw [List.dropWhile_cons]
    split
    · exact ih
    · rename_i mark
      exact (flush_cons rest).mpr (Bool.eq_false_iff.mpr mark)

/-- What trimming on the right takes away are blanks. -/
theorem exists_trimRight (text : List Char) :
    ∃ gap, text = trimRight text ++ gap ∧ ∀ c ∈ gap, isBlank c = true := by
  refine ⟨(text.reverse.takeWhile isBlank).reverse, ?_, ?_⟩
  · rw [trimRight, trimLeft, ← List.reverse_append, List.takeWhile_append_dropWhile,
      List.reverse_reverse]
  · intro c member
    exact List.all_eq_true.mp List.all_takeWhile c (List.mem_reverse.mp member)

/-- Blanks behind a text that ends without one are taken away, and no more. -/
theorem trimRight_append (blank : ∀ c ∈ gap, isBlank c = true) (flush : Flush core.reverse) :
    trimRight (core ++ gap) = core := by
  have blank : ∀ c ∈ gap.reverse, isBlank c = true := fun c member => blank c (List.mem_reverse.mp member)
  rw [trimRight, trimLeft, List.reverse_append, List.dropWhile_append_of_pos blank]
  change (trimLeft core.reverse).reverse = core
  rw [trimLeft_of_flush flush, List.reverse_reverse]

theorem flush_trim (text : List Char) : Flush (trim text) := by
  obtain ⟨gap, parts, -⟩ := exists_trimRight (trimLeft text)
  have flush := flush_trimLeft text
  rw [parts] at flush
  exact flush.of_append

def blankCodes : List Nat :=
  List.range' 9 5 ++ [0x20, 0x85, 0xa0, 0x1680] ++ List.range' 0x2000 11 ++
    [0x2028, 0x2029, 0x202f, 0x205f, 0x3000]

theorem mem_blankCodes (blank : isBlank c = true) : c.toNat ∈ blankCodes := by
  simp only [isBlank, Bool.or_eq_true, Bool.and_eq_true, decide_eq_true_eq, beq_iff_eq] at blank
  simp only [blankCodes, List.mem_append, List.mem_range'_1, List.mem_cons, List.not_mem_nil]
  omega

/-- No run of capitals has a blank between its first small letter and its last. -/
theorem caseRuns_clear : ∀ run ∈ caseRuns.toList, ∀ n ∈ blankCodes,
    ¬ ((run.first : Int) + run.shift ≤ n ∧ (n : Int) ≤ run.last + run.shift) := by
  decide +kernel

theorem toNat_ofNat (n : Nat) : (Char.ofNat n).toNat = n ∨ (Char.ofNat n).toNat = 0 := by
  by_cases valid : n.isValidChar
  · have known : Char.ofNat n = Char.ofNatAux n valid := dif_pos valid
    rw [known]
    exact .inl rfl
  · have zero : (Char.ofNat n).toNat = 0 := congrArg Char.toNat (dif_neg valid)
    exact .inr zero

theorem CaseRun.not_isBlank {run : CaseRun} (member : run ∈ caseRuns) (small : run.lower? c = some d) :
    isBlank d = false := by
  unfold lower? at small
  split at small
  · rename_i inside
    obtain ⟨above, below, -⟩ := inside
    obtain rfl := Option.some.inj small
    apply Bool.eq_false_iff.mpr
    intro blank
    have code := mem_blankCodes blank
    have positive : ∀ n ∈ blankCodes, 0 < n := by decide
    have nonzero := positive _ code
    rcases toNat_ofNat (c.toNat + run.shift).toNat with same | zero
    · rw [same] at code nonzero
      have clear := caseRuns_clear run (Array.mem_toList_iff.mpr member) _ code
      omega
    · omega
  · cases small

theorem forall_ascii {P : Char → Prop} (all : ∀ n < 128, P (Char.ofNat n)) (ascii : c.toNat < 128) : P c := by
  have here := all c.toNat ascii
  rwa [Char.ofNat_toNat] at here

theorem toLower_not_isBlank (ascii : c.toNat < 128) (mark : isBlank c = false) : isBlank c.toLower = false :=
  forall_ascii (P := fun c => isBlank c = false → isBlank c.toLower = false) (by decide) ascii mark

/-- A character that is no blank has a small form that does not begin with one. -/
theorem flush_lowerChar (mark : isBlank c = false) (rest : List Char) : Flush (lowerChar c ++ rest) := by
  unfold lowerChar
  split
  · rename_i ascii
    exact (flush_cons rest).mpr (toLower_not_isBlank ascii mark)
  · split
    · exact (flush_cons _).mpr (by decide)
    · apply (flush_cons rest).mpr
      cases found : caseRuns.findSome? (·.lower? c) with
      | none => exact mark
      | some d =>
        obtain ⟨run, member, small⟩ := Array.exists_of_findSome?_eq_some found
        exact CaseRun.not_isBlank member small

theorem Flush.lower (flush : Flush text) : Flush (lower text) := by
  cases text with
  | nil => exact flush_nil
  | cons c rest =>
    have mark := (flush_cons rest).mp flush
    unfold Text.lower lowerAfter
    split
    · split <;> exact (flush_cons _).mpr (by decide)
    · exact flush_lowerChar mark _

theorem ascii_of_isDigit (digit : c.isDigit = true) : c.toNat < 128 := by
  simp only [Char.isDigit, Bool.and_eq_true, decide_eq_true_eq] at digit
  exact Nat.lt_of_le_of_lt digit.2 (by decide)

theorem isBlank_of_isDigit (digit : c.isDigit = true) : isBlank c = false :=
  forall_ascii (P := fun c => c.isDigit = true → isBlank c = false) (by decide) (ascii_of_isDigit digit) digit

theorem lowerAfter_of_digits (digits : ∀ c ∈ text, c.isDigit = true) (before : List Char) :
    lowerAfter before text = text := by
  induction text generalizing before with
  | nil => rfl
  | cons c rest ih =>
    obtain ⟨digit, digits⟩ := List.forall_mem_cons.mp digits
    have ascii := ascii_of_isDigit digit
    obtain ⟨plain, small⟩ : c ≠ 'Σ' ∧ c.toLower = c :=
      forall_ascii (P := fun c => c.isDigit = true → c ≠ 'Σ' ∧ c.toLower = c) (by decide) ascii digit
    rw [lowerAfter, if_neg plain, lowerChar, if_pos ascii, small, ih digits]
    rfl

end WorkerPool.Text
