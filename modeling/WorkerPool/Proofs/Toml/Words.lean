import WorkerPool.Toml.Document

/-!
# Whole numbers of a document

A whole number that does not fit in 64 bits is no value, so every whole number of a document that is
read fits, however deep it stands. Adding to a table keeps this, and so does every reader.
-/

namespace WorkerPool.Toml

def IsWord (n : Int) : Prop := -(Decimal.signedMax : Int) - 1 ≤ n ∧ n ≤ Decimal.signedMax

/-- Whether all whole numbers in a node fit in 64 bits. -/
inductive Node.Fits : Node → Prop
  | text {value} : Fits (.text value)
  | int {value} (word : IsWord value) : Fits (.int value)
  | float : Fits .float
  | bool {value} : Fits (.bool value)
  | moment : Fits .moment
  | array {items} (all : ∀ item ∈ items, Fits item) : Fits (.array items)
  | table {origin entries} (all : ∀ entry ∈ entries, Fits entry.2) : Fits (.table origin entries)
  | tables {earlier last} (before : ∀ entries ∈ earlier, ∀ entry ∈ entries, Fits entry.2)
      (all : ∀ entry ∈ last, Fits entry.2) : Fits (.tables earlier last)

namespace Entries

variable {entries result : Entries} {key : String} {node : Node} {path : List String} {origin : Origin}

def Fits (entries : Entries) : Prop := ∀ entry ∈ entries, entry.2.Fits

def Keeps (change : Entries → Option Entries) : Prop :=
  ∀ entries result, Fits entries → change entries = some result → Fits result

theorem fits_nil : Fits [] := by
  intro entry member
  cases member

theorem Fits.of_lookup (fits : entries.Fits) (found : entries.lookup key = some node) : node.Fits := by
  induction entries with
  | nil => cases found
  | cons entry rest ih =>
    obtain ⟨other, old⟩ := entry
    rw [List.lookup_cons] at found
    split at found
    · cases found
      exact fits (other, node) List.mem_cons_self
    · exact ih (fun entry member => fits entry (List.mem_cons_of_mem _ member)) found

theorem keeps_alter {change : Option Node → Option Node}
    (keeps : ∀ found node, (∀ old ∈ found, old.Fits) → change found = some node → node.Fits) :
    Keeps (alter key change) := by
  intro entries
  induction entries with
  | nil =>
    intro result _ changed
    obtain ⟨node, answer, rfl⟩ := Option.map_eq_some_iff.mp changed
    intro entry member
    rw [List.mem_singleton.mp member]
    exact keeps none node (by simp) answer
  | cons entry rest ih =>
    intro result fits changed
    obtain ⟨other, old⟩ := entry
    have here : old.Fits := fits (other, old) List.mem_cons_self
    have there : Fits rest := fun entry member => fits entry (List.mem_cons_of_mem _ member)
    rw [alter] at changed
    split at changed
    · obtain ⟨node, answer, rfl⟩ := Option.map_eq_some_iff.mp changed
      have new : node.Fits := keeps (some old) node (by simpa using here) answer
      exact List.forall_mem_cons.mpr ⟨new, there⟩
    · obtain ⟨rest', altered, rfl⟩ := Option.map_eq_some_iff.mp changed
      exact List.forall_mem_cons.mpr ⟨here, ih rest' there altered⟩

theorem keeps_atPath {isKey : Bool} {leaf : Origin → Entries → Option Entries}
    (keeps : ∀ origin, Keeps (leaf origin)) (path : List String) (origin : Origin) :
    Keeps (atPath isKey leaf path origin) := by
  induction path generalizing origin with
  | nil => exact keeps origin
  | cons key path ih =>
    apply keeps_alter
    intro found node fits changed
    cases found with
    | none =>
      obtain ⟨sub, below, rfl⟩ := Option.map_eq_some_iff.mp changed
      exact .table (ih _ [] sub fits_nil below)
    | some old =>
      have old_fits : old.Fits := fits old rfl
      cases old_fits with
      | table all =>
        simp only at changed
        split at changed
        · cases changed
        · obtain ⟨sub, below, rfl⟩ := Option.map_eq_some_iff.mp changed
          exact .table (ih _ _ sub all below)
      | tables before all =>
        obtain ⟨sub, below, rfl⟩ := Option.map_eq_some_iff.mp changed
        exact .tables before (ih _ _ sub all below)
      | _ => cases changed

theorem keeps_add (fits : node.Fits) : Keeps (add key node) := by
  apply keeps_alter
  intro found new _ changed
  cases found with
  | none =>
    cases changed
    exact fits
  | some old => cases changed

theorem keeps_set (fits : node.Fits) (path : List String) (origin : Origin) :
    Keeps (set path key node origin) := by
  apply keeps_atPath
  intro origin entries result before added
  simp only at added
  split at added
  · cases added
  · exact keeps_add fits entries result before added

theorem keeps_openTable : Keeps (openTable path key) := by
  apply keeps_atPath
  intro _
  apply keeps_alter
  intro found node fits opened
  split at opened
  · cases opened
    exact .table fits_nil
  · cases opened
    cases fits _ rfl with
    | table all => exact .table all
  · cases opened

theorem keeps_openNext : Keeps (openNext path key) := by
  apply keeps_atPath
  intro _
  apply keeps_alter
  intro found node fits opened
  split at opened
  · cases opened
    exact .tables (by simp) fits_nil
  · cases opened
    cases fits _ rfl with
    | tables before all => exact .tables (List.forall_mem_cons.mpr ⟨all, before⟩) fits_nil
  · cases opened

end Entries

def Sound (read : List Char → Option (Node × List Char)) : Prop :=
  ∀ text node rest, read text = some (node, rest) → node.Fits

variable {text rest : List Char} {node : Node} {read : List Char → Option (Node × List Char)}

theorem isWord_of_int? {n : Int} (spelt : int? text = some n) : IsWord n := by
  -- Each base ends in the same check of the bounds.
  have checked : ∀ {digits : Option (List Char)} {value : List Char → Int},
      (digits.bind fun ds =>
        if -(Decimal.signedMax : Int) - 1 ≤ value ds ∧ value ds ≤ Decimal.signedMax then some (value ds)
        else none) = some n → IsWord n := by
    intro digits value bound
    obtain ⟨ds, -, bounded⟩ := Option.bind_eq_some_iff.mp bound
    split at bounded
    · cases bounded
      assumption
    · cases bounded
  unfold int? at spelt
  split at spelt
  · exact checked spelt
  · exact checked spelt
  · exact checked spelt
  · exact checked spelt

theorem fits_of_scalar? (spelt : scalar? text = some node) : node.Fits := by
  unfold scalar? at spelt
  split at spelt
  · cases spelt
    exact .bool
  · cases spelt
    exact .bool
  · split at spelt
    · rename_i number
      cases spelt
      exact .int (isWord_of_int? number)
    · split at spelt
      · cases spelt
        exact .float
      · split at spelt
        · cases spelt
          exact .moment
        · cases spelt

theorem sound_readScalar? : Sound readScalar? := by
  intro text node rest taken
  unfold readScalar? at taken
  simp only at taken
  split at taken
  · split at taken
    · cases taken
      exact .moment
    · split at taken
      · cases taken
        exact .moment
      · cases taken
  · obtain ⟨node, spelt, same⟩ := Option.map_eq_some_iff.mp taken
    cases same
    exact fits_of_scalar? spelt

theorem sound_atom? : Sound atom? := by
  intro text node rest taken
  unfold atom? at taken
  split at taken
  · obtain ⟨_, -, same⟩ := Option.map_eq_some_iff.mp taken
    cases same
    exact .text
  · obtain ⟨_, -, same⟩ := Option.map_eq_some_iff.mp taken
    cases same
    exact .text
  · exact sound_readScalar? _ _ _ taken

theorem fits_of_arrayItems? (sound : Sound read) {fuel : Nat} {items : List Node}
    (taken : arrayItems? read fuel text = some (items, rest)) : ∀ item ∈ items, item.Fits := by
  induction fuel generalizing text items rest with
  | zero => cases taken
  | succ fuel ih =>
    rw [arrayItems?] at taken
    obtain ⟨start, -, taken⟩ := Option.bind_eq_some_iff.mp taken
    split at taken
    · cases taken
      simp
    · obtain ⟨⟨item, after⟩, first, taken⟩ := Option.bind_eq_some_iff.mp taken
      have item_fits : item.Fits := sound _ _ _ first
      obtain ⟨next, -, taken⟩ := Option.bind_eq_some_iff.mp taken
      split at taken
      · obtain ⟨⟨others, after⟩, more, taken⟩ := Option.bind_eq_some_iff.mp taken
        cases taken
        exact List.forall_mem_cons.mpr ⟨item_fits, ih more⟩
      · cases taken
        simpa using item_fits
      · cases taken

theorem fits_of_keyValue? (sound : Sound read) {key : List String × String}
    (taken : keyValue? read text = some ((key, node), rest)) : node.Fits := by
  rw [keyValue?] at taken
  obtain ⟨⟨key, after⟩, -, taken⟩ := Option.bind_eq_some_iff.mp taken
  simp only at taken
  split at taken
  · obtain ⟨⟨value, after⟩, first, taken⟩ := Option.bind_eq_some_iff.mp taken
    cases taken
    exact sound _ _ _ first
  · cases taken

theorem fits_of_inlineEntries? (sound : Sound read) {fuel : Nat} {before entries : Entries}
    (fits : before.Fits) (taken : inlineEntries? read fuel before text = some (entries, rest)) :
    entries.Fits := by
  induction fuel generalizing text before rest with
  | zero => cases taken
  | succ fuel ih =>
    rw [inlineEntries?] at taken
    obtain ⟨⟨⟨⟨path, key⟩, node⟩, after⟩, first, taken⟩ := Option.bind_eq_some_iff.mp taken
    obtain ⟨longer, added, taken⟩ := Option.bind_eq_some_iff.mp taken
    have longer_fits : longer.Fits :=
      Entries.keeps_set (fits_of_keyValue? sound first) path .own before longer fits added
    split at taken
    · exact ih longer_fits taken
    · cases taken
      exact longer_fits
    · cases taken

theorem sound_value? (depth : Nat) : Sound (value? depth) := by
  induction depth with
  | zero => exact sound_atom?
  | succ depth ih =>
    intro text node rest taken
    unfold value? at taken
    split at taken
    · obtain ⟨⟨items, after⟩, inside, same⟩ := Option.map_eq_some_iff.mp taken
      cases same
      exact .array (fits_of_arrayItems? ih inside)
    · split at taken
      · cases taken
        exact .table Entries.fits_nil
      · obtain ⟨⟨entries, after⟩, inside, same⟩ := Option.map_eq_some_iff.mp taken
        cases same
        exact .table (fits_of_inlineEntries? ih Entries.fits_nil inside)
    · exact sound_atom? _ _ _ taken

/-- A line adds what fits to what fits. -/
theorem Draft.addLine?_fits {draft next : Draft} (fits : draft.root.Fits)
    (added : draft.addLine? text = some (next, rest)) : next.root.Fits := by
  unfold addLine? at added
  split at added
  · obtain ⟨_, -, same⟩ := Option.map_eq_some_iff.mp added
    cases same
    exact fits
  · obtain ⟨⟨⟨path, key⟩, after⟩, -, added⟩ := Option.bind_eq_some_iff.mp added
    simp only at added
    split at added
    · obtain ⟨root, opened, added⟩ := Option.bind_eq_some_iff.mp added
      obtain ⟨_, -, added⟩ := Option.bind_eq_some_iff.mp added
      cases added
      exact Entries.keeps_openNext _ _ fits opened
    · cases added
  · obtain ⟨⟨⟨path, key⟩, after⟩, -, added⟩ := Option.bind_eq_some_iff.mp added
    simp only at added
    split at added
    · obtain ⟨root, opened, added⟩ := Option.bind_eq_some_iff.mp added
      obtain ⟨_, -, added⟩ := Option.bind_eq_some_iff.mp added
      cases added
      exact Entries.keeps_openTable _ _ fits opened
    · cases added
  · split at added
    · cases added
      exact fits
    · obtain ⟨⟨⟨⟨path, key⟩, node⟩, after⟩, first, added⟩ := Option.bind_eq_some_iff.mp added
      obtain ⟨root, changed, added⟩ := Option.bind_eq_some_iff.mp added
      obtain ⟨_, -, added⟩ := Option.bind_eq_some_iff.mp added
      cases added
      have node_fits : node.Fits := fits_of_keyValue? (sound_value? _) first
      exact Entries.keeps_atPath (Entries.keeps_set node_fits path) draft.header .own _ _ fits changed

theorem Draft.addLines?_fits {fuel : Nat} {draft : Draft} {entries : Entries} (fits : draft.root.Fits)
    (added : addLines? fuel draft text = some entries) : entries.Fits := by
  induction fuel generalizing draft text with
  | zero => cases added
  | succ fuel ih =>
    rw [addLines?] at added
    split at added
    · cases added
      exact fits
    · obtain ⟨⟨next, after⟩, line, added⟩ := Option.bind_eq_some_iff.mp added
      exact ih (addLine?_fits fits line) added

/-- Every whole number of a document fits in 64 bits. -/
theorem parse?_fits {text : String} {entries : Entries} (parsed : parse? text = some entries) :
    entries.Fits :=
  Draft.addLines?_fits Entries.fits_nil parsed

end WorkerPool.Toml
