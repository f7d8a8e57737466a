import WorkerPool.Log.Json
import WorkerPool.Proofs.Decimal.Numeral
import WorkerPool.Text.Classes

/-!
# Tokens of a line

A text of values falls into tokens: marks, quoted texts, and words and numerals, which end where another
character follows. What is written for a value falls into the tokens of the value, whatever the texts in
it hold: a quote, a backslash and a control in a text are escaped and do not end it.
-/

namespace WorkerPool.Log

inductive Datum
  | null
  | bool (value : Bool)
  | number (value : Decimal.Literal)
  | text (value : String)
  | list (items : List Datum)
  | object (entries : List (String × Datum))

inductive Token
  | openObject
  | closeObject
  | openList
  | closeList
  | colon
  | comma
  | value (d : Datum)

def isGap (c : Char) : Bool := c == ' ' || c == '\t' || c == '\n' || c == '\r'

def isWordChar (c : Char) : Bool := c.isAlpha || Decimal.isNumeric c

def mark? : Char → Option Token
  | '\x7b' => some .openObject
  | '\x7d' => some .closeObject
  | '[' => some .openList
  | ']' => some .closeList
  | ':' => some .colon
  | ',' => some .comma
  | _ => none

def word? : List Char → Option Datum
  | ['n', 'u', 'l', 'l'] => some .null
  | ['t', 'r', 'u', 'e'] => some (.bool true)
  | ['f', 'a', 'l', 's', 'e'] => some (.bool false)
  | text => (Decimal.Literal.parse? text).map .number

def unescape? : Char → Option Nat
  | '"' => some 0x22
  | '\\' => some 0x5c
  | '/' => some 0x2f
  | 'b' => some 0x08
  | 'f' => some 0x0c
  | 'n' => some 0x0a
  | 'r' => some 0x0d
  | 't' => some 0x09
  | _ => none

/-- The characters of these numbers; a character that is too large for one escape is given by a pair. -/
def characters? : List Nat → Option (List Char)
  | [] => some []
  | [n] => (Text.scalarValue? n).map ([·])
  | n :: low :: rest =>
    match Text.scalarValue? n with
    | some c => (characters? (low :: rest)).map (c :: ·)
    | none =>
      if 0xd800 ≤ n ∧ n < 0xdc00 ∧ 0xdc00 ≤ low ∧ low < 0xe000 then
        (Text.scalarValue? (0x10000 + (n - 0xd800) * 0x400 + (low - 0xdc00))).bind fun c =>
          (characters? rest).map (c :: ·)
      else none

inductive Scan
  | between
  /-- In a word or a numeral, which has begun with these characters. -/
  | word (sofar : List Char)
  /-- In a quoted text, which has begun with the characters of these numbers. -/
  | quoted (codes : List Nat)
  /-- Behind a backslash. -/
  | escaped (codes : List Nat)
  /-- In an escape by number, which has begun with these digits. -/
  | numbered (codes : List Nat) (digits : List Char)

namespace Scan

def begin? (c : Char) : Option (List Token × Scan) :=
  if isGap c then some ([], .between)
  else if c = '"' then some ([], .quoted [])
  else if isWordChar c then some ([], .word [c])
  else (mark? c).map fun t => ([t], .between)

/-- One character on: the tokens that end with it or right before it, and where the scanner stands by
then. -/
def advance (c : Char) : Scan → Option (List Token × Scan)
  | .between => begin? c
  | .word sofar =>
    if isWordChar c then some ([], .word (sofar ++ [c]))
    else (word? sofar).bind fun d => (begin? c).map fun (tokens, next) => (.value d :: tokens, next)
  | .quoted codes =>
    if c = '"' then
      (characters? codes).map fun text => ([.value (.text (String.ofList text))], .between)
    else if c = '\\' then some ([], .escaped codes)
    else if c.toNat < 32 then none
    else some ([], .quoted (codes ++ [c.toNat]))
  | .escaped codes =>
    if c = 'u' then some ([], .numbered codes [])
    else (unescape? c).map fun n => ([], .quoted (codes ++ [n]))
  | .numbered codes digits =>
    if !Text.isHexDigit c then none
    else if digits.length < 3 then some ([], .numbered codes (digits ++ [c]))
    else some ([], .quoted (codes ++ [Text.inBase 16 (digits ++ [c])]))

def finish : Scan → Option (List Token)
  | .between => some []
  | .word sofar => (word? sofar).map fun d => [.value d]
  | _ => none

def tokens? (s : Scan) : List Char → Option (List Token)
  | [] => s.finish
  | c :: rest => (s.advance c).bind fun (tokens, next) => (tokens? next rest).map (tokens ++ ·)

variable {s t : Scan} {c : Char} {tokens : List Token} {codes : List Nat} {word rest : List Char}
  {d : Datum}

theorem tokens?_cons (step : s.advance c = some (tokens, t)) (rest : List Char) :
    s.tokens? (c :: rest) = (t.tokens? rest).map (tokens ++ ·) := by
  rw [tokens?, step]
  rfl

theorem tokens?_cons_of_nothing (step : s.advance c = some ([], t)) (rest : List Char) :
    s.tokens? (c :: rest) = t.tokens? rest := by
  rw [tokens?_cons step]
  cases t.tokens? rest <;> rfl

structure IsWord (word : List Char) (d : Datum) : Prop where
  nonempty : word ≠ []
  all : ∀ c ∈ word, isWordChar c = true
  stands : word? word = some d

theorem word?_of_parse? {l : Decimal.Literal} (read : Decimal.Literal.parse? word = some l) :
    word? word = some (.number l) := by
  unfold word?
  split
  · cases read
  · cases read
  · cases read
  · rw [read, Option.map_some]

theorem isWord_text {n : Decimal.Numeral} (proper : n.Proper) : IsWord n.text (.number n.literal) := by
  have read := Decimal.parse?_text proper
  refine ⟨?_, fun c member => ?_, word?_of_parse? read⟩
  · intro empty
    rw [empty] at read
    cases read
  · rw [isWordChar, Decimal.isNumeric_of_mem_text proper member, Bool.or_true]

theorem isWord_null : IsWord "null".toList .null := ⟨by decide, List.all_eq_true.mp rfl, rfl⟩

theorem isWord_true : IsWord "true".toList (.bool true) := ⟨by decide, List.all_eq_true.mp rfl, rfl⟩

theorem isWord_false : IsWord "false".toList (.bool false) := ⟨by decide, List.all_eq_true.mp rfl, rfl⟩

theorem begin?_of_isWordChar (h : isWordChar c = true) : begin? c = some ([], .word [c]) := by
  have gap : isGap c = false := by
    rw [← Bool.not_eq_true]
    intro gap
    simp only [isGap, Bool.or_eq_true, beq_iff_eq] at gap
    rcases gap with ((rfl | rfl) | rfl) | rfl <;> exact absurd h (by decide)
  have quote : c ≠ '"' := by
    rintro rfl
    exact absurd h (by decide)
  rw [begin?, gap, if_neg Bool.false_ne_true, if_neg quote, if_pos h]

theorem tokens?_word_append (all : ∀ c ∈ word, isWordChar c = true) (sofar rest : List Char) :
    (Scan.word sofar).tokens? (word ++ rest) = (Scan.word (sofar ++ word)).tokens? rest := by
  induction word generalizing sofar with
  | nil => rw [List.nil_append, List.append_nil]
  | cons c word ih =>
    have step : (Scan.word sofar).advance c = some ([], .word (sofar ++ [c])) :=
      if_pos (all c List.mem_cons_self)
    rw [List.cons_append, tokens?_cons_of_nothing step,
      ih fun d member => all d (List.mem_cons_of_mem c member), List.append_assoc, List.singleton_append]

/-- A word ends where another character follows, or the text ends. -/
theorem tokens?_word_end (stands : word? word = some d) (ends : ∀ c ∈ rest.head?, isWordChar c = false) :
    (Scan.word word).tokens? rest = (Scan.between.tokens? rest).map (.value d :: ·) := by
  cases rest with
  | nil =>
    rw [tokens?, finish, stands]
    rfl
  | cons c rest =>
    -- The character that ends the word is scanned as it is between words.
    have step : (Scan.word word).advance c =
        (begin? c).map fun (tokens, next) => (.value d :: tokens, next) := by
      rw [advance, ends c rfl, if_neg Bool.false_ne_true, stands, Option.bind_some]
    rw [tokens?, step, tokens?, advance]
    cases begin? c with
    | none => rfl
    | some step => simp [Option.map_map, Function.comp_def]

theorem tokens?_word (isWord : IsWord word d) (ends : ∀ c ∈ rest.head?, isWordChar c = false) :
    Scan.between.tokens? (word ++ rest) = (Scan.between.tokens? rest).map (.value d :: ·) := by
  have all := isWord.all
  cases shape : word with
  | nil => exact absurd shape isWord.nonempty
  | cons c others =>
    rw [shape] at all
    have step : Scan.between.advance c = some ([], .word [c]) :=
      begin?_of_isWordChar (all c List.mem_cons_self)
    rw [List.cons_append, tokens?_cons_of_nothing step,
      tokens?_word_append fun d member => all d (List.mem_cons_of_mem c member)]
    rw [List.singleton_append, ← shape]
    exact tokens?_word_end isWord.stands ends

theorem scalarValue?_toNat (c : Char) : Text.scalarValue? c.toNat = some c := by
  have valid : c.toNat.isValidChar := c.valid
  have same := Char.ofNat_toNat c
  rw [Char.ofNat, dif_pos valid] at same
  rw [Text.scalarValue?, dif_pos valid, same]

theorem characters?_toNat (text : List Char) : characters? (text.map Char.toNat) = some text := by
  induction text with
  | nil => rfl
  | cons c text ih =>
    cases text with
    | nil => simp [characters?, scalarValue?_toNat]
    | cons d text =>
      -- No two numbers are taken for a pair, since the first is that of a character.
      simp only [List.map_cons, characters?, scalarValue?_toNat] at ih ⊢
      rw [ih]
      rfl

/-- An escape by number is read as the character with this number. -/
theorem tokens?_control (small : c.toNat < 32) (codes : List Nat) (rest : List Char) :
    (Scan.quoted codes).tokens?
        ('\\' :: 'u' :: '0' :: '0' :: Json.hexDigit (c.toNat / 16) :: Json.hexDigit c.toNat :: rest) =
      (Scan.quoted (codes ++ [c.toNat])).tokens? rest := by
  have digits : ∀ n < 32, Text.isHexDigit (Json.hexDigit (n / 16)) = true ∧
      Text.isHexDigit (Json.hexDigit n) = true ∧
      Text.inBase 16 ['0', '0', Json.hexDigit (n / 16), Json.hexDigit n] = n := by decide
  obtain ⟨high, low, value⟩ := digits c.toNat small
  generalize Json.hexDigit (c.toNat / 16) = a at *
  generalize Json.hexDigit c.toNat = b at *
  rw [tokens?_cons_of_nothing (t := .escaped codes) rfl,
    tokens?_cons_of_nothing (t := .numbered codes []) rfl,
    tokens?_cons_of_nothing (t := .numbered codes ['0']) rfl,
    tokens?_cons_of_nothing (t := .numbered codes ['0', '0']) rfl,
    tokens?_cons_of_nothing (t := .numbered codes ['0', '0', a]) (by simp [advance, high]),
    tokens?_cons_of_nothing (t := .quoted (codes ++ [c.toNat])) (by simp [advance, low, value])]

theorem tokens?_short {n : Nat} (short : unescape? c = some n) (codes : List Nat) (rest : List Char) :
    (Scan.quoted codes).tokens? ('\\' :: c :: rest) = (Scan.quoted (codes ++ [n])).tokens? rest := by
  have other : c ≠ 'u' := by
    rintro rfl
    cases short
  rw [tokens?_cons_of_nothing (t := .escaped codes) rfl,
    tokens?_cons_of_nothing (t := .quoted (codes ++ [n])) (by rw [advance, if_neg other, short]; rfl)]

/-- What is written for a character in a quoted text is read as the character. -/
theorem tokens?_escapeChar (c : Char) (codes : List Nat) (rest : List Char) :
    (Scan.quoted codes).tokens? (Json.escapeChar c ++ rest) =
      (Scan.quoted (codes ++ [c.toNat])).tokens? rest := by
  unfold Json.escapeChar
  split
  · exact tokens?_short rfl codes rest
  · exact tokens?_short rfl codes rest
  · exact tokens?_short rfl codes rest
  · exact tokens?_short rfl codes rest
  · exact tokens?_short rfl codes rest
  · exact tokens?_short rfl codes rest
  · exact tokens?_short rfl codes rest
  · rename_i quote backslash _ _ _ _ _
    split
    · rename_i small
      exact tokens?_control small codes rest
    · rename_i large
      exact tokens?_cons_of_nothing (by rw [advance, if_neg quote, if_neg backslash, if_neg large]) rest

theorem tokens?_escaped (text : List Char) (codes : List Nat) (rest : List Char) :
    (Scan.quoted codes).tokens? (text.flatMap Json.escapeChar ++ rest) =
      (Scan.quoted (codes ++ text.map Char.toNat)).tokens? rest := by
  induction text generalizing codes with
  | nil => rw [List.flatMap_nil, List.nil_append, List.map_nil, List.append_nil]
  | cons c text ih =>
    rw [List.flatMap_cons, List.append_assoc, tokens?_escapeChar, ih, List.map_cons, List.append_assoc,
      List.singleton_append]

/-- A quoted text ends at the quote that is written behind it and not before. -/
theorem tokens?_renderText (text : String) (rest : List Char) :
    Scan.between.tokens? (Json.renderText text ++ rest) =
      (Scan.between.tokens? rest).map (.value (.text text) :: ·) := by
  have close : (Scan.quoted (text.toList.map Char.toNat)).advance '"' =
      some ([.value (.text text)], .between) := by
    rw [advance, if_pos rfl, characters?_toNat, Option.map_some, String.ofList_toList]
  simp only [Json.renderText, List.cons_append, List.append_assoc, List.nil_append]
  rw [tokens?_cons_of_nothing (t := .quoted []) rfl, tokens?_escaped, List.nil_append,
    tokens?_cons close]
  rfl

end Scan

/-- Whether a text falls into these tokens whatever stands behind it, as long as that does not prolong a
word. -/
def Falls (text : List Char) (tokens : List Token) : Prop :=
  ∀ rest : List Char, (∀ c ∈ rest.head?, isWordChar c = false) →
    Scan.between.tokens? (text ++ rest) = (Scan.between.tokens? rest).map (tokens ++ ·)

theorem ends_of_mark {c : Char} {rest : List Char} (other : isWordChar c = false) :
    ∀ d ∈ (c :: rest).head?, isWordChar d = false := by
  intro d first
  rwa [← Option.some.inj first]

namespace Falls

variable {text more : List Char} {tokens others : List Token} {c : Char} {t : Token}

theorem nil : Falls [] [] := by
  intro rest _
  rw [List.nil_append]
  cases Scan.between.tokens? rest <;> rfl

theorem mark (step : Scan.between.advance c = some ([t], .between)) (falls : Falls text tokens) :
    Falls (c :: text) (t :: tokens) := by
  intro rest ends
  rw [List.cons_append, Scan.tokens?_cons step, falls rest ends, Option.map_map]
  rfl

theorem append (first : Falls text tokens) (second : Falls more others)
    (ends : ∀ c ∈ more.head?, isWordChar c = false) : Falls (text ++ more) (tokens ++ others) := by
  intro rest last
  -- Behind the first text comes the second or, if that is empty, what is behind both.
  have next : ∀ c ∈ (more ++ rest).head?, isWordChar c = false := by
    cases more with
    | nil => exact last
    | cons d more => exact ends
  rw [List.append_assoc, first _ next, second rest last, Option.map_map]
  congr 1
  funext after
  exact (List.append_assoc ..).symm

end Falls

/-- What can be read for a number of binary64: one that is not finite has no numeral. -/
inductive Datum.Shows : Datum → Decimal.Number → Prop
  | nan : Shows .null .nan
  | infinite (negative : Bool) : Shows .null (.infinite negative)
  | numeral {l : Decimal.Literal} {x : Decimal.Number} (rounds : l.Rounds x) : Shows (.number l) x

namespace Json

theorem exists_isWord_write {bits : Nat} {x : Decimal.Number} (given : x = .ofBits bits)
    (finite : ∀ negative, x ≠ .infinite negative) (number : x ≠ .nan) :
    ∃ d, Scan.IsWord (Decimal.Notation.json.write x) d ∧ d.Shows x := by
  obtain ⟨numeral, proper, text, rounds⟩ := Decimal.exists_numeral given finite number
  have isWord := Scan.isWord_text proper
  rw [text] at isWord
  exact ⟨_, isWord, .numeral rounds⟩

theorem exists_isWord_renderNumber (bits : Nat) :
    ∃ d, Scan.IsWord (renderNumber (.ofBits bits)) d ∧ d.Shows (.ofBits bits) := by
  cases given : Decimal.Number.ofBits bits with
  | nan => exact ⟨.null, Scan.isWord_null, .nan⟩
  | infinite negative => exact ⟨.null, Scan.isWord_null, .infinite negative⟩
  | zero negative => exact exists_isWord_write given.symm nofun nofun
  | finite negative m q => exact exists_isWord_write given.symm nofun nofun

inductive Sound : Json → Prop
  | null : Sound .null
  | bool (value : Bool) : Sound (.bool value)
  | int (value : Int) : Sound (.int value)
  | number (bits : Nat) : Sound (.number (.ofBits bits))
  | text (value : String) : Sound (.text value)
  | object {entries : List (String × Json)} (all : ∀ e ∈ entries, Sound e.2) : Sound (.object entries)

theorem Sound.of_mem {entries : List (String × Json)} (sound : Sound (.object entries)) :
    ∀ e ∈ entries, e.2.Sound := by
  cases sound with
  | object all => exact all

mutual

def datum : Json → Datum
  | .null => .null
  | .bool value => .bool value
  | .int n => .number (Decimal.Numeral.ofInt n).literal
  | .number x => (word? (renderNumber x)).getD .null
  | .text s => .text s
  | .object entries => .object (data entries)

def data : List (String × Json) → List (String × Datum)
  | [] => []
  | (key, value) :: rest => (key, datum value) :: data rest

end

theorem isWord_int (n : Int) : Scan.IsWord (render (.int n)) (datum (.int n)) := by
  have isWord := Scan.isWord_text (Decimal.ofInt_proper n)
  rwa [Decimal.text_ofInt] at isWord

theorem isWord_renderNumber (bits : Nat) :
    Scan.IsWord (renderNumber (.ofBits bits)) (datum (.number (.ofBits bits))) := by
  obtain ⟨d, isWord, -⟩ := exists_isWord_renderNumber bits
  rwa [datum, isWord.stands, Option.getD_some]

theorem shows_datum (bits : Nat) : (datum (.number (.ofBits bits))).Shows (.ofBits bits) := by
  obtain ⟨d, isWord, shows⟩ := exists_isWord_renderNumber bits
  rwa [datum, isWord.stands, Option.getD_some]

mutual

def tokens : Json → List Token
  | .object entries => .openObject :: (entryTokens entries ++ [.closeObject])
  | j => [.value j.datum]

def entryTokens : List (String × Json) → List Token
  | [] => []
  | [(key, value)] => .value (.text key) :: .colon :: tokens value
  | (key, value) :: next :: rest =>
    .value (.text key) :: .colon :: (tokens value ++ .comma :: entryTokens (next :: rest))

end

theorem falls_renderText (s : String) : Falls (renderText s) [.value (.text s)] :=
  fun rest _ => Scan.tokens?_renderText s rest

theorem falls_word {word : List Char} {d : Datum} (isWord : Scan.IsWord word d) : Falls word [.value d] :=
  fun _ ends => Scan.tokens?_word isWord ends

theorem falls_entry {key : String} {text : List Char} {inner : List Token} (falls : Falls text inner) :
    Falls (renderText key ++ ':' :: text) (.value (.text key) :: .colon :: inner) :=
  (falls_renderText key).append (.mark rfl falls) (ends_of_mark rfl)

mutual

/-- What is written for a value falls into the tokens of the value. -/
theorem falls_render : (j : Json) → j.Sound → Falls j.render j.tokens
  | .null, _ => falls_word Scan.isWord_null
  | .bool true, _ => falls_word Scan.isWord_true
  | .bool false, _ => falls_word Scan.isWord_false
  | .int n, _ => falls_word (isWord_int n)
  | .number x, sound => by
    cases sound with
    | number bits => exact falls_word (isWord_renderNumber bits)
  | .text s, _ => falls_renderText s
  | .object entries, sound => by
    have inner := falls_entries entries sound.of_mem
    exact .mark rfl (inner.append (.mark rfl .nil) (ends_of_mark rfl))

theorem falls_entries : (entries : List (String × Json)) → (∀ e ∈ entries, e.2.Sound) →
    Falls (renderEntries entries) (entryTokens entries)
  | [], _ => .nil
  | [(key, value)], all => falls_entry (falls_render value (all _ List.mem_cons_self))
  | (key, value) :: next :: rest, all => by
    have tail := falls_entries (next :: rest) fun e member => all e (List.mem_cons_of_mem _ member)
    have inner := falls_render value (all _ List.mem_cons_self)
    rw [renderEntries, entryTokens, List.append_assoc]
    exact falls_entry (inner.append (.mark rfl tail) (ends_of_mark rfl))

end

theorem le_toNat_of_isWordChar {c : Char} (h : isWordChar c = true) : 32 ≤ c.toNat := by
  have controls : ∀ n < 32, isWordChar (Char.ofNat n) = false := by decide
  by_contra small
  have control := controls c.toNat (not_le.mp small)
  rw [Char.ofNat_toNat, h] at control
  cases control

theorem le_toNat_hexDigit (n : Nat) : 32 ≤ (hexDigit n).toNat := by
  have digits : ∀ m < 16, 32 ≤ (Nat.digitChar m).toNat := by decide
  exact digits (n % 16) (Nat.mod_lt n (by decide))

theorem le_toNat_short {c : Char} (large : 32 ≤ c.toNat) : ∀ d ∈ ['\\', c], 32 ≤ d.toNat := by
  simp [large]

theorem le_toNat_escapeChar (c : Char) : ∀ d ∈ escapeChar c, 32 ≤ d.toNat := by
  unfold escapeChar
  split
  iterate 7 exact le_toNat_short (by decide)
  split
  · simp [le_toNat_hexDigit]
  · rename_i large
    simpa using large

theorem le_toNat_renderText (s : String) : ∀ c ∈ renderText s, 32 ≤ c.toNat := by
  intro c member
  simp only [renderText, List.cons_append, List.mem_cons, List.mem_append, List.mem_flatMap,
    List.not_mem_nil, or_false] at member
  rcases member with rfl | ⟨d, -, escaped⟩ | rfl
  · decide
  · exact le_toNat_escapeChar d c escaped
  · decide

theorem le_toNat_word {word : List Char} {d : Datum} (isWord : Scan.IsWord word d) :
    ∀ c ∈ word, 32 ≤ c.toNat :=
  fun c member => le_toNat_of_isWordChar (isWord.all c member)

mutual

/-- No control is written for a value, so that it stays on one line. -/
theorem le_toNat_render : (j : Json) → j.Sound → ∀ c ∈ j.render, 32 ≤ c.toNat
  | .null, _ => le_toNat_word Scan.isWord_null
  | .bool true, _ => le_toNat_word Scan.isWord_true
  | .bool false, _ => le_toNat_word Scan.isWord_false
  | .int n, _ => le_toNat_word (isWord_int n)
  | .number x, sound => by
    cases sound with
    | number bits => exact le_toNat_word (isWord_renderNumber bits)
  | .text s, _ => le_toNat_renderText s
  | .object entries, sound => by
    intro c member
    simp only [render, List.cons_append, List.mem_cons, List.mem_append, List.not_mem_nil, or_false] at member
    rcases member with rfl | inner | rfl
    · decide
    · exact le_toNat_entries entries sound.of_mem c inner
    · decide

theorem le_toNat_entries : (entries : List (String × Json)) → (∀ e ∈ entries, e.2.Sound) →
    ∀ c ∈ renderEntries entries, 32 ≤ c.toNat
  | [], _ => nofun
  | [(key, value)], all => by
    intro c member
    rcases List.mem_append.mp member with name | member
    · exact le_toNat_renderText key c name
    · rcases List.mem_cons.mp member with rfl | inner
      · decide
      · exact le_toNat_render value (all _ List.mem_cons_self) c inner
  | (key, value) :: next :: rest, all => by
    intro c member
    rw [renderEntries] at member
    simp only [List.cons_append, List.append_assoc, List.mem_append, List.mem_cons] at member
    rcases member with name | rfl | inner | rfl | others
    · exact le_toNat_renderText key c name
    · decide
    · exact le_toNat_render value (all _ List.mem_cons_self) c inner
    · decide
    · exact le_toNat_entries (next :: rest) (fun e member => all e (List.mem_cons_of_mem _ member)) c others

end

end Json
end WorkerPool.Log
