import Xtql.Text.Utf8

/-!
Positions in a text: a byte offset with its line and column, both from 1.
-/

namespace Xtql.Text

structure Position where
  offset : Nat
  line : Nat
  column : Nat
deriving DecidableEq, Repr, Inhabited

namespace Position

/-- Walks the characters while the next one ends within `budget` bytes, counting lines and
columns from `here`. -/
def advance (here : Position) : List Char → Nat → Position
  | [], _ => here
  | c :: cs, budget =>
    if c.utf8Size ≤ budget then
      let next :=
        if c = '\n' then { offset := here.offset + 1, line := here.line + 1, column := 1 }
        else { here with offset := here.offset + c.utf8Size, column := here.column + 1 }
      advance next cs (budget - c.utf8Size)
    else here

/-- The position of a byte offset in a text: past the end clamps to the end, inside a
character backs off to its start. -/
def ofOffset (s : String) (offset : Nat) : Position :=
  advance { offset := 0, line := 1, column := 1 } s.toList offset

def render (p : Position) : String := s!"{p.line}:{p.column}"

end Position

end Xtql.Text
