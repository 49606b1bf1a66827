import Xtql.Json.Value

/-!
Objects built from fields with distinct keys have one member per field (`object_members`).
-/

namespace Xtql.Json

theorem lookup_insertField (k : String) (v : Json) (fs : List (String × Json)) (k' : String) :
    (insertField k v fs).lookup k' = if k' = k then some v else fs.lookup k' := by
  induction fs with
  | nil =>
    by_cases h : k' = k <;>
      simp [insertField, List.lookup_cons, List.lookup_nil, h, beq_false_of_ne]
  | cons p rest ih =>
    obtain ⟨k'', v''⟩ := p
    unfold insertField
    by_cases hlt : k < k''
    · rw [if_pos hlt]
      by_cases h : k' = k <;> simp [List.lookup_cons, h, beq_false_of_ne]
    · rw [if_neg hlt]
      by_cases heq : k = k''
      · subst heq
        rw [if_pos rfl]
        by_cases h : k' = k <;> simp [List.lookup_cons, h, beq_false_of_ne]
      · rw [if_neg heq]
        by_cases h : k' = k''
        · subst h
          simp [Ne.symm heq]
        · simp only [List.lookup_cons, beq_false_of_ne h, ih]

theorem length_insertField {k : String} (v : Json) {fs : List (String × Json)}
    (hk : k ∉ fs.map Prod.fst) : (insertField k v fs).length = fs.length + 1 := by
  induction fs with
  | nil => rfl
  | cons p rest ih =>
    obtain ⟨k'', v''⟩ := p
    simp only [List.map_cons, List.mem_cons, not_or] at hk
    unfold insertField
    split
    · simp
    · rw [if_neg hk.1]
      simp [ih hk.2]

section Fill

variable {fields acc : List (String × Json)}

theorem keys_foldl_insertField (fields acc : List (String × Json)) (k : String) :
    k ∈ (fields.foldl (fun acc kv => insertField kv.1 kv.2 acc) acc).map Prod.fst ↔
      k ∈ acc.map Prod.fst ∨ k ∈ fields.map Prod.fst := by
  induction fields generalizing acc with
  | nil => simp
  | cons p rest ih =>
    rw [List.foldl_cons, ih, keys_insertField_mem]
    simp only [List.map_cons, List.mem_cons, or_assoc, or_left_comm]

theorem lookup_foldl_insertField_of_not_mem {k : String} (hk : k ∉ fields.map Prod.fst) :
    (fields.foldl (fun acc kv => insertField kv.1 kv.2 acc) acc).lookup k = acc.lookup k := by
  induction fields generalizing acc with
  | nil => rfl
  | cons p rest ih =>
    simp only [List.map_cons, List.mem_cons, not_or] at hk
    rw [List.foldl_cons, ih hk.2, lookup_insertField, if_neg hk.1]

theorem length_foldl_insertField (hnd : (fields.map Prod.fst).Nodup)
    (hnew : ∀ k ∈ fields.map Prod.fst, k ∉ acc.map Prod.fst) :
    (fields.foldl (fun acc kv => insertField kv.1 kv.2 acc) acc).length =
      acc.length + fields.length := by
  induction fields generalizing acc with
  | nil => rfl
  | cons p rest ih =>
    simp only [List.map_cons, List.nodup_cons, List.mem_cons, forall_eq_or_imp] at hnd hnew
    rw [List.foldl_cons, ih hnd.2, length_insertField _ hnew.1, List.length_cons]
    · omega
    · -- the keys still to come are neither in the object nor the key just put in
      intro k hk
      rw [keys_insertField_mem]
      rintro (rfl | hacc)
      · exact hnd.1 hk
      · exact hnew.2 k hk hacc

theorem lookup_foldl_insertField {k : String} {v : Json} (hnd : (fields.map Prod.fst).Nodup)
    (hm : (k, v) ∈ fields) :
    (fields.foldl (fun acc kv => insertField kv.1 kv.2 acc) acc).lookup k = some v := by
  induction fields generalizing acc with
  | nil => simp at hm
  | cons p rest ih =>
    simp only [List.map_cons, List.nodup_cons] at hnd
    rw [List.foldl_cons]
    rcases List.mem_cons.1 hm with rfl | hm'
    · rw [lookup_foldl_insertField_of_not_mem hnd.1, lookup_insertField, if_pos rfl]
    · exact ih hnd.2 hm'

end Fill

/-- An object of fields with distinct keys has one member per field, and each key looks up the
value of its field. -/
theorem object_members (fields : List (String × Json)) (hnd : (fields.map Prod.fst).Nodup) :
    ∃ fs, object fields = .obj fs ∧ fs.length = fields.length ∧
      ∀ k v, (k, v) ∈ fields → (object fields).field? k = some v := by
  refine ⟨_, rfl, ?_, fun k v hm => lookup_foldl_insertField hnd hm⟩
  rw [length_foldl_insertField hnd (by simp), List.length_nil, Nat.zero_add]

end Xtql.Json
