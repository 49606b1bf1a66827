/-!
Character classes given as tables of inclusive code-point ranges, and the membership test
the classes share.
-/

namespace Xtql.Unicode

/-- A table of inclusive code-point ranges `(lo, hi)`. -/
abbrev RangeTable := List (Nat × Nat)

def RangeTable.contains (t : RangeTable) (n : Nat) : Bool :=
  t.any fun r => r.1 ≤ n && n ≤ r.2

theorem RangeTable.contains_iff (t : RangeTable) (n : Nat) :
    t.contains n = true ↔ ∃ r ∈ t, r.1 ≤ n ∧ n ≤ r.2 := by
  simp [RangeTable.contains]

end Xtql.Unicode
