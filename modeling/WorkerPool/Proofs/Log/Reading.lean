import WorkerPool.Proofs.Log.Token

/-!
# Reading a line

A reader puts the tokens of a text together: it keeps the lists and objects that are still open and what
has been read of each. It is strict: no comma may be missing or stand at an end, no name may be missing,
and nothing may stand behind the value. What is written for a value is read as the value.
-/

namespace WorkerPool.Log

/-- A list or an object that has not ended, with what has been read of it so far. -/
inductive Frame
  | list (items : List Datum)
  | object (entries : List (String × Datum)) (key : String)

inductive Due
  | value
  /-- A name in an object, which has these entries so far. -/
  | name (entries : List (String × Datum))
  | colon (entries : List (String × Datum)) (key : String)
  /-- What may follow a value. -/
  | after (d : Datum)

namespace Datum

/-- One token on. A list can end in front of a first item and an object in front of a first name. -/
def advance : List Frame → Due → Token → Option (List Frame × Due)
  | stack, .value, .value d => some (stack, .after d)
  | stack, .value, .openList => some (.list [] :: stack, .value)
  | stack, .value, .openObject => some (stack, .name [])
  | .list [] :: stack, .value, .closeList => some (stack, .after (.list []))
  | stack, .name [], .closeObject => some (stack, .after (.object []))
  | stack, .name entries, .value (.text key) => some (stack, .colon entries key)
  | stack, .colon entries key, .colon => some (.object entries key :: stack, .value)
  | .list items :: stack, .after d, .comma => some (.list (items ++ [d]) :: stack, .value)
  | .list items :: stack, .after d, .closeList => some (stack, .after (.list (items ++ [d])))
  | .object entries key :: stack, .after d, .comma => some (stack, .name (entries ++ [(key, d)]))
  | .object entries key :: stack, .after d, .closeObject =>
    some (stack, .after (.object (entries ++ [(key, d)])))
  | _, _, _ => none

def assemble (stack : List Frame) (due : Due) : List Token → Option Datum
  | [] =>
    match stack, due with
    | [], .after d => some d
    | _, _ => none
  | t :: rest => (advance stack due t).bind fun (stack, due) => assemble stack due rest

theorem assemble_name (stack : List Frame) (entries : List (String × Datum)) (key : String)
    (rest : List Token) :
    assemble stack (.name entries) (.value (.text key) :: .colon :: rest) =
      assemble (.object entries key :: stack) .value rest := by
  simp only [assemble, advance, Option.bind_some]

def read? (text : String) : Option Datum :=
  (Scan.between.tokens? text.toList).bind (assemble [] .value)

example : read? " [1, -2.5e1, \"\\u0041\"]" =
    some (.list [.number ⟨false, 1, 0⟩, .number ⟨true, 25, 0⟩, .text "A"]) := rfl

example : read? "[1,]" = none := rfl

end Datum

namespace Json

open Datum

mutual

theorem assemble_tokens : (j : Json) → ∀ (stack : List Frame) (rest : List Token),
    assemble stack .value (j.tokens ++ rest) = assemble stack (.after j.datum) rest
  | .null, _, _ => rfl
  | .bool _, _, _ => rfl
  | .int _, _, _ => rfl
  | .number _, _, _ => rfl
  | .text _, _, _ => rfl
  | .object entries, stack, rest => by
    have inner := assemble_entries entries [] (fun _ => rfl) stack rest
    rw [tokens, datum, List.cons_append, List.append_assoc]
    exact inner

/-- The last entries of an object. Without any, the object can end only if it is empty. -/
theorem assemble_entries : (entries : List (String × Json)) → (before : List (String × Datum)) →
    (entries = [] → before = []) → ∀ (stack : List Frame) (rest : List Token),
    assemble stack (.name before) (entryTokens entries ++ .closeObject :: rest) =
      assemble stack (.after (.object (before ++ data entries))) rest
  | [], before, empty, stack, rest => by
    obtain rfl := empty rfl
    rfl
  | [(key, value)], before, _, stack, rest => by
    have inner := assemble_tokens value (.object before key :: stack) (.closeObject :: rest)
    rw [entryTokens, List.cons_append, List.cons_append, assemble_name, inner]
    rfl
  | (key, value) :: next :: others, before, _, stack, rest => by
    have inner := assemble_tokens value (.object before key :: stack)
      (.comma :: (entryTokens (next :: others) ++ .closeObject :: rest))
    -- The comma behind the value completes the entry, and the others come behind it.
    have tail := assemble_entries (next :: others) (before ++ [(key, value.datum)]) nofun stack rest
    have entries : before ++ data ((key, value) :: next :: others) =
        before ++ [(key, value.datum)] ++ data (next :: others) := List.append_cons ..
    rw [entryTokens, List.cons_append, List.cons_append, List.append_assoc, assemble_name, List.cons_append,
      inner, entries, ← tail]
    rfl

end

/-- A line with a value is read as the value. -/
theorem read?_line {j : Json} (sound : j.Sound) : read? (j.line ++ "\n") = some j.datum := by
  have gap : Scan.between.tokens? ['\n'] = some [] := rfl
  have falls := falls_render j sound ['\n'] (ends_of_mark rfl)
  have whole := assemble_tokens j [] []
  rw [List.append_nil] at whole
  rw [read?, line, String.toList_append, String.toList_ofList, show "\n".toList = ['\n'] from rfl, falls, gap,
    Option.map_some, Option.bind_some, List.append_nil, whole]
  rfl

end Json
end WorkerPool.Log
