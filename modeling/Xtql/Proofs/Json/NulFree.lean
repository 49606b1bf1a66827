import Xtql.Json.Print
import Xtql.Proofs.Edn.LexPrint
import Mathlib.Tactic.SplitIfs

/-!
Compact JSON text holds no NUL character, so a C string can always carry it.
-/

namespace Xtql

open Xtql.Number Xtql.Edn

/-- Text a C string can hold: no NUL character. -/
def NulFree (s : String) : Prop := '\x00' ∉ s.toList

instance NulFree.decidable (s : String) : Decidable (NulFree s) :=
  inferInstanceAs (Decidable ('\x00' ∉ s.toList))

@[simp] theorem nulFree_append {s t : String} : NulFree (s ++ t) ↔ NulFree s ∧ NulFree t := by
  simp [NulFree, not_or]

@[simp] theorem nulFree_ofList {cs : List Char} : NulFree (String.ofList cs) ↔ '\x00' ∉ cs := by
  simp [NulFree]

@[simp] theorem nulFree_singleton {c : Char} : NulFree (String.singleton c) ↔ c ≠ '\x00' := by
  simp [NulFree, eq_comm]

theorem nulFree_join {l : List String} (h : ∀ s ∈ l, NulFree s) : NulFree (String.join l) := by
  simp only [NulFree, String.toList_join, List.mem_flatMap, not_exists, not_and]
  exact fun s hs => h s hs

theorem not_mem_of_isDigit {cs : List Char} (h : ∀ c ∈ cs, c.isDigit = true) : '\x00' ∉ cs :=
  fun hm => absurd (h _ hm) (by decide)

theorem not_mem_toDigits (n : Nat) : '\x00' ∉ Nat.toDigits 10 n :=
  not_mem_of_isDigit fun _ => isDigit_of_mem_toDigits

theorem nulFree_toString_nat (n : Nat) : NulFree (toString n) := by
  simp only [NulFree, Nat.toString_eq_repr, Nat.toList_repr]
  exact not_mem_toDigits n

theorem nulFree_toString_int (n : Int) : NulFree (toString n) := by
  simp only [NulFree, toList_toString_int, List.mem_append, not_or]
  refine ⟨?_, not_mem_toDigits _⟩
  split <;> simp

/-! ### Strings -/

theorem hex2_nulFree (n : Nat) : NulFree (hex2 n) := by
  -- each of the two digits is one of `0`-`9`, `a`-`f`
  have hdigit : ∀ d < 16,
      (if d < 10 then Char.ofNat (48 + d) else Char.ofNat (87 + d)) ≠ '\x00' := by decide
  have hhi := hdigit (n / 16 % 16) (Nat.mod_lt _ (by decide))
  have hlo := hdigit (n % 16) (Nat.mod_lt _ (by decide))
  simp only [hex2, nulFree_ofList, List.mem_cons, List.not_mem_nil, or_false, not_or]
  exact ⟨Ne.symm hhi, Ne.symm hlo⟩

theorem escapeChar_nulFree (c : Char) : NulFree (escapeChar c) := by
  unfold escapeChar
  split
  any_goals decide
  split
  · decide
  split
  · decide
  split
  · exact nulFree_append.2 ⟨by decide, hex2_nulFree _⟩
  · -- a character written as itself is at least U+0020
    rename_i hlow
    rw [nulFree_singleton]
    rintro rfl
    exact hlow (by decide)

theorem quote_nulFree (s : String) : NulFree (quote s) := by
  simp only [quote, nulFree_append]
  refine ⟨⟨by decide, nulFree_join ?_⟩, by decide⟩
  simp only [List.mem_map]
  rintro _ ⟨c, -, rfl⟩
  exact escapeChar_nulFree c

/-! ### Numbers -/

theorem zeros_nulFree (n : Nat) : NulFree (zeros n) := by
  simp [zeros, List.mem_replicate]

theorem writeDecimal_nulFree (l : Layout) (d : Decimal) : NulFree (l.writeDecimal d) := by
  unfold Layout.writeDecimal
  have hds := not_mem_toDigits d.digits
  generalize Nat.toDigits 10 d.digits = ds at hds ⊢
  have htake : ∀ k, '\x00' ∉ ds.take k := fun k h => hds (List.mem_of_mem_take h)
  have hdrop : ∀ k, '\x00' ∉ ds.drop k := fun k h => hds (List.mem_of_mem_drop h)
  dsimp only
  split_ifs
  · -- positional: digits, zeros and a point, or a point and zeros before the digits
    simp only [nulFree_append, nulFree_ofList]
    exact ⟨⟨hds, zeros_nulFree _⟩, by decide⟩
  · simp only [nulFree_append, nulFree_ofList]
    exact ⟨⟨htake _, by decide⟩, hdrop _⟩
  · simp only [nulFree_append, nulFree_ofList]
    exact ⟨⟨by decide, zeros_nulFree _⟩, hds⟩
  all_goals
    -- scientific: a mantissa, the mark, a sign and the exponent's digits
    rw [nulFree_append, nulFree_append, nulFree_append]
    refine ⟨⟨⟨?_, by decide⟩, by decide⟩, nulFree_toString_nat _⟩
    split
    · rename_i c
      exact nulFree_singleton.2 fun h => hds (by simp [h])
    · rename_i c rest _
      simp only [nulFree_append, nulFree_singleton, nulFree_ofList]
      exact ⟨⟨fun h => hds (by simp [h]), by decide⟩,
        fun h => hds (List.mem_cons_of_mem _ h)⟩
    · decide

theorem write_nulFree (l : Layout) (x : Binary64) : NulFree (l.write x) := by
  unfold Layout.write
  dsimp only
  -- zero or not, then the sign
  split_ifs
  all_goals refine nulFree_append.2 ⟨by decide, ?_⟩
  · decide
  · decide
  · exact writeDecimal_nulFree l _
  · exact writeDecimal_nulFree l _

theorem JsonNumber.render_nulFree (n : JsonNumber) : NulFree n.render := by
  cases n with
  | int n => exact nulFree_toString_int n
  | float x => exact write_nulFree _ x

/-! ### Values -/

mutual

theorem Json.compact_nulFree : (j : Json) → NulFree j.compact
  | .null => by decide
  | .bool b => by cases b <;> decide
  | .num n => by rw [Json.compact]; exact JsonNumber.render_nulFree n
  | .str s => by rw [Json.compact]; exact quote_nulFree s
  | .arr items => by
    rw [Json.compact, nulFree_append, nulFree_append]
    exact ⟨⟨by decide, Json.compactItems_nulFree items⟩, by decide⟩
  | .obj fields => by
    rw [Json.compact, nulFree_append, nulFree_append]
    exact ⟨⟨by decide, Json.compactFields_nulFree fields⟩, by decide⟩

theorem Json.compactItems_nulFree : (js : List Json) → NulFree (Json.compactItems js)
  | [] => by decide
  | [j] => by rw [Json.compactItems]; exact Json.compact_nulFree j
  | j :: k :: rest => by
    show NulFree (Json.compact j ++ "," ++ Json.compactItems (k :: rest))
    rw [nulFree_append, nulFree_append]
    exact ⟨⟨Json.compact_nulFree j, by decide⟩, Json.compactItems_nulFree (k :: rest)⟩

theorem Json.compactFields_nulFree :
    (fs : List (String × Json)) → NulFree (Json.compactFields fs)
  | [] => by decide
  | [(k, v)] => by
    rw [Json.compactFields, nulFree_append, nulFree_append]
    exact ⟨⟨quote_nulFree k, by decide⟩, Json.compact_nulFree v⟩
  | (k, v) :: f :: rest => by
    show NulFree (quote k ++ ":" ++ Json.compact v ++ "," ++ Json.compactFields (f :: rest))
    simp only [nulFree_append]
    exact ⟨⟨⟨⟨quote_nulFree k, by decide⟩, Json.compact_nulFree v⟩, by decide⟩,
      Json.compactFields_nulFree (f :: rest)⟩

end

end Xtql
