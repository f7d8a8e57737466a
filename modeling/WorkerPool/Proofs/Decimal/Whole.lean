import WorkerPool.Decimal.Whole

/-!
# Reading back whole numbers

A run of digits is read as the number that it spells, as long as that is within bounds, so what is
written in decimal is read back. Nothing else is read, but for a plus sign in front of the digits.
-/

namespace WorkerPool.Decimal

variable {limit n value : Nat} {overflow : WholeError} {text : List Char}

theorem le_ofDigitChars (text : List Char) (n : Nat) : n ≤ Nat.ofDigitChars 10 text n := by
  induction text generalizing n with
  | nil => exact Nat.le_refl n
  | cons c rest ih =>
    rw [Nat.ofDigitChars_cons]
    have more := ih (10 * n + (c.toNat - '0'.toNat))
    omega

theorem readDigits_of_digits (digits : ∀ c ∈ text, c.isDigit = true)
    (bounded : Nat.ofDigitChars 10 text n ≤ limit) :
    readDigits limit overflow n text = .ok (Nat.ofDigitChars 10 text n) := by
  induction text generalizing n with
  | nil => rfl
  | cons c rest ih =>
    rw [Nat.ofDigitChars_cons] at bounded ⊢
    have step : 10 * n + digitValue c ≤ limit :=
      Nat.le_trans (le_ofDigitChars rest _) bounded
    rw [readDigits, if_pos (digits c List.mem_cons_self), if_pos step]
    exact ih (fun d member => digits d (List.mem_cons_of_mem c member)) bounded

theorem digits_of_readDigits (small : n ≤ limit) (read : readDigits limit overflow n text = .ok value) :
    (∀ c ∈ text, c.isDigit = true) ∧ Nat.ofDigitChars 10 text n = value ∧ value ≤ limit := by
  induction text generalizing n with
  | nil =>
    cases read
    exact ⟨by simp, rfl, small⟩
  | cons c rest ih =>
    rw [readDigits] at read
    split at read
    · rename_i digit
      split at read
      · rename_i step
        obtain ⟨digits, spelt, bounded⟩ := ih step read
        rw [Nat.ofDigitChars_cons]
        exact ⟨List.forall_mem_cons.mpr ⟨digit, digits⟩, spelt, bounded⟩
      · cases read
    · cases read

def sign (signed : Bool) : List Char := if signed then ['+'] else []

theorem readNat_sign (digits : ∀ c ∈ text, c.isDigit = true) (nonempty : text ≠ []) (signed : Bool) :
    readNat limit (sign signed ++ text) = readDigits limit .tooLarge 0 text := by
  cases signed with
  | true =>
    change readNat limit ('+' :: text) = _
    unfold readNat
    split
    · rename_i empty
      cases empty
    · rename_i alone
      exact absurd (List.cons.inj alone).2 nonempty
    · rename_i same
      rw [(List.cons.inj same).2]
    · rename_i other
      exact absurd rfl (other text)
  | false =>
    change readNat limit text = _
    unfold readNat
    split
    · exact absurd rfl nonempty
    · exact absurd (digits '+' List.mem_cons_self) (by decide)
    · exact absurd (digits '+' List.mem_cons_self) (by decide)
    · rfl

theorem readNat_of_digits (digits : ∀ c ∈ text, c.isDigit = true) (nonempty : text ≠ [])
    (bounded : Nat.ofDigitChars 10 text 0 ≤ limit) (signed : Bool) :
    readNat limit (sign signed ++ text) = .ok (Nat.ofDigitChars 10 text 0) := by
  rw [readNat_sign digits nonempty]
  exact readDigits_of_digits digits bounded

/-- What is read is a run of digits, with a sign or without. -/
theorem exists_digits_of_readNat (read : readNat limit text = .ok value) :
    ∃ signed digits, text = sign signed ++ digits ∧ digits ≠ [] ∧ (∀ c ∈ digits, c.isDigit = true) ∧
      Nat.ofDigitChars 10 digits 0 = value ∧ value ≤ limit := by
  unfold readNat at read
  split at read
  · cases read
  · cases read
  · rename_i rest alone
    obtain ⟨digits, spelt, bounded⟩ := digits_of_readDigits (Nat.zero_le _) read
    refine ⟨true, rest, rfl, ?_, digits, spelt, bounded⟩
    rintro rfl
    exact alone rfl
  · rename_i nonempty _ _
    obtain ⟨digits, spelt, bounded⟩ := digits_of_readDigits (Nat.zero_le _) read
    exact ⟨false, text, rfl, nonempty, digits, spelt, bounded⟩

/-- What is written in decimal is read back. -/
theorem readNat_toString (bounded : n ≤ limit) : readNat limit (toString n).toList = .ok n := by
  have text : (toString n).toList = Nat.toDigits 10 n := Nat.toList_repr
  have spelt : Nat.ofDigitChars 10 (Nat.toDigits 10 n) 0 = n := Nat.ofDigitChars_ten_toDigits
  have digits : ∀ c ∈ Nat.toDigits 10 n, c.isDigit = true := fun c =>
    Nat.isDigit_of_mem_toDigits (by decide) (by decide)
  have read := readNat_of_digits digits Nat.toDigits_ne_nil (spelt.symm ▸ bounded) false
  rw [text]
  exact read.trans (congrArg Except.ok spelt)

end WorkerPool.Decimal
