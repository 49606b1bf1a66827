import Xtql.Number.Binary64

/-!
JSON values. Objects keep their fields sorted by key with no key twice, so a value has one
written form.
-/

namespace Xtql

open Xtql.Number

/-- A JSON number: an integer, or a binary64 float. -/
inductive JsonNumber where
  | int (n : Int)
  | float (x : Binary64)
deriving DecidableEq, Repr

inductive Json where
  | null
  | bool (b : Bool)
  | num (n : JsonNumber)
  | str (s : String)
  | arr (items : List Json)
  | obj (fields : List (String × Json))
deriving Repr, Inhabited

namespace Json

/-- Puts a field into fields sorted by key, replacing the value of an equal key. -/
def insertField (k : String) (v : Json) : List (String × Json) → List (String × Json)
  | [] => [(k, v)]
  | (k', v') :: rest =>
    if k < k' then (k, v) :: (k', v') :: rest
    else if k = k' then (k, v) :: rest
    else (k', v') :: insertField k v rest

/-- An object of the given fields, sorted by key; of two equal keys the later one wins. -/
def object (fields : List (String × Json)) : Json :=
  .obj (fields.foldl (fun acc kv => insertField kv.1 kv.2 acc) [])

def int (n : Int) : Json := .num (.int n)

def float (x : Binary64) : Json := .num (.float x)

def field? (j : Json) (k : String) : Option Json :=
  match j with
  | .obj fields => fields.lookup k
  | _ => none

theorem keys_insertField_mem (k k' : String) (v : Json) (fs : List (String × Json)) :
    k' ∈ (insertField k v fs).map Prod.fst ↔ k' = k ∨ k' ∈ fs.map Prod.fst := by
  induction fs with
  | nil => simp [insertField]
  | cons p rest ih =>
    obtain ⟨k'', v''⟩ := p
    simp only [insertField]
    split
    · simp
    · split
      · rename_i h; subst h; simp
      · simp only [List.map_cons, List.mem_cons, ih]; exact or_left_comm

end Json

end Xtql
