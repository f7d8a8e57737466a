import Mathlib.Data.List.Induction
import Mathlib.Data.String.Basic
import WorkerPool.Log.Fields

/-!
# Entries under their names

When entries are put in one after the other, what is found under a name is what was put in last. Names
ascend, so that none stands twice.
-/

namespace WorkerPool.Log

namespace Fields

variable {α : Type} {fields : Fields α} {name : String} {value : α}

theorem ofList_append (entries : List (String × α)) (f : String × α) :
    ofList (entries ++ [f]) = put f.1 f.2 (ofList entries) := by
  simp [ofList]

theorem find?_ofList (entries : List (String × α)) (name : String) :
    find? (ofList entries) name = (entries.reverse.find? fun f => f.1 == name).map (·.2) := by
  induction entries using List.reverseRecOn with
  | nil => rfl
  | append_singleton entries f ih =>
    rw [ofList_append, find?_put, ih, List.reverse_append, List.reverse_singleton, List.singleton_append,
      List.find?_cons]
    by_cases same : name = f.1
    · simp [same]
    · have other : (f.1 == name) = false := beq_eq_false_iff_ne.mpr (Ne.symm same)
      rw [if_neg same, other]

theorem mem_put {f : String × α} (member : f ∈ put name value fields) : f = (name, value) ∨ f ∈ fields := by
  induction fields with
  | nil => exact .inl (List.mem_singleton.mp member)
  | cons entry rest ih =>
    obtain ⟨other, old⟩ := entry
    rw [put] at member
    split at member
    · exact List.mem_cons.mp member
    · split at member
      · exact (List.mem_cons.mp member).imp_right (List.mem_cons_of_mem _)
      · rcases List.mem_cons.mp member with rfl | member
        · exact .inr List.mem_cons_self
        · exact (ih member).imp_right (List.mem_cons_of_mem _)

theorem mem_ofList {entries : List (String × α)} {f : String × α} (member : f ∈ ofList entries) :
    f ∈ entries := by
  induction entries using List.reverseRecOn with
  | nil => exact member
  | append_singleton entries g ih =>
    rw [ofList_append] at member
    rcases mem_put member with rfl | member
    · exact List.mem_append_right _ (List.mem_singleton_self _)
    · exact List.mem_append_left _ (ih member)

theorem pairwise_put (sorted : fields.Pairwise (·.1 < ·.1)) :
    (put name value fields).Pairwise (·.1 < ·.1) := by
  induction fields with
  | nil => exact List.pairwise_singleton ..
  | cons entry rest ih =>
    obtain ⟨other, old⟩ := entry
    obtain ⟨first, others⟩ := List.pairwise_cons.mp sorted
    rw [put]
    split
    · rename_i before
      refine List.pairwise_cons.mpr ⟨fun f member => ?_, sorted⟩
      rcases List.mem_cons.mp member with rfl | member
      · exact before
      · exact before.trans (first f member)
    · split
      · rename_i same
        subst same
        exact List.pairwise_cons.mpr ⟨first, others⟩
      · rename_i notBefore differs
        refine List.pairwise_cons.mpr ⟨fun f member => ?_, ih others⟩
        rcases mem_put member with rfl | member
        · exact lt_of_le_of_ne (not_lt.mp notBefore) (Ne.symm differs)
        · exact first f member

theorem pairwise_ofList (entries : List (String × α)) : (ofList entries).Pairwise (·.1 < ·.1) := by
  induction entries using List.reverseRecOn with
  | nil => exact .nil
  | append_singleton entries f ih =>
    rw [ofList_append]
    exact pairwise_put ih

theorem nodup_keys (sorted : fields.Pairwise (·.1 < ·.1)) : (fields.map Prod.fst).Nodup :=
  List.pairwise_map.mpr (sorted.imp ne_of_lt)

theorem find?_filter (keep : String → Bool) (fields : Fields α) (name : String) :
    find? (fields.filter fun f => keep f.1) name = if keep name then find? fields name else none := by
  induction fields with
  | nil => simp [find?_nil]
  | cons f rest ih =>
    obtain ⟨key, value⟩ := f
    rw [List.filter_cons, find?_cons]
    by_cases same : name = key
    · subst same
      by_cases kept : keep name = true
      · simp [kept, find?_cons]
      · simp [kept, ih]
    · rw [if_neg same]
      split
      · rw [find?_cons, if_neg same, ih]
      · exact ih

end Fields

end WorkerPool.Log
