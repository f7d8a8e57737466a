/-!
Entries kept under their names, in the order of the names. An entry put in replaces the one of
the same name.
-/

namespace WorkerPool.Log

/-- Entries in strictly ascending order of their names. -/
abbrev Fields (α : Type) := List (String × α)

namespace Fields

variable {α : Type}

def put (name : String) (value : α) : Fields α → Fields α
  | [] => [(name, value)]
  | (other, old) :: rest =>
    if name < other then (name, value) :: (other, old) :: rest
    else if name = other then (name, value) :: rest
    else (other, old) :: put name value rest

def ofList (entries : List (String × α)) : Fields α :=
  entries.foldl (fun fields (name, value) => put name value fields) []

def find? (fields : Fields α) (name : String) : Option α := fields.lookup name

def without (fields : Fields α) (names : List String) : Fields α :=
  fields.filter fun (name, _) => !names.contains name

theorem find?_nil (name : String) : find? ([] : Fields α) name = none := List.lookup_nil

theorem find?_cons (key name : String) (value : α) (rest : Fields α) :
    find? ((key, value) :: rest) name = if name = key then some value else find? rest name := by
  by_cases h : name = key
  · simp [find?, h]
  · have : (name == key) = false := by simpa using h
    simp [find?, List.lookup_cons, h, this]

theorem find?_put (name other : String) (value : α) (fields : Fields α) :
    find? (put name value fields) other =
      if other = name then some value else find? fields other := by
  induction fields with
  | nil => rw [put, find?_cons]
  | cons entry rest ih =>
    obtain ⟨key, old⟩ := entry
    rw [put]
    split
    · rw [find?_cons]
    · split
      · subst name
        rw [find?_cons, find?_cons]
        split <;> rfl
      · rename_i differs
        rw [find?_cons, find?_cons, ih]
        by_cases h : other = key
        · subst h
          simp [Ne.symm differs]
        · simp [h]

end Fields
end WorkerPool.Log
