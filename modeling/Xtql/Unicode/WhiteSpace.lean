import Xtql.Unicode.Ranges

/-!
The Unicode `White_Space` property: the ASCII blanks U+0009 to U+000D and U+0020, and the
wider spaces and separators above U+007F.
-/

namespace Xtql.Unicode

def whiteSpaceRanges : RangeTable :=
  [(0x9, 0xD), (0x20, 0x20), (0x85, 0x85), (0xA0, 0xA0), (0x1680, 0x1680), (0x2000, 0x200A),
   (0x2028, 0x2029), (0x202F, 0x202F), (0x205F, 0x205F), (0x3000, 0x3000)]

def isWhiteSpace (c : Char) : Bool :=
  whiteSpaceRanges.contains c.toNat

/-- Every blank that core's `Char.isWhitespace` knows is a `White_Space` character. -/
theorem isWhiteSpace_of_isWhitespace (c : Char) (h : c.isWhitespace = true) :
    isWhiteSpace c = true := by
  simp only [Char.isWhitespace, Bool.or_eq_true, decide_eq_true_eq] at h
  rcases h with ((h | h) | h) | h <;> subst h <;> decide

end Xtql.Unicode
