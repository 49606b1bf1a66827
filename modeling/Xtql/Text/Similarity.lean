import Xtql.Number.Binary64

/-!
Jaro similarity of two strings, in binary64 arithmetic.
-/

namespace Xtql.Text

open Xtql.Number

def findMatch (c : Char) (b : Array Char) (flags : Array Bool) (lo hi : Nat) : Option Nat :=
  (List.range' lo (hi - lo)).find? fun j => b[j]? == some c && flags[j]? == some false

def markMatches (b : Array Char) (range : Nat) :
    List Char → Nat → List Bool → Array Bool → List Bool × Array Bool
  | [], _, aFlags, bFlags => (aFlags.reverse, bFlags)
  | c :: cs, i, aFlags, bFlags =>
    let lo := i - range
    let hi := min b.size (i + range + 1)
    match findMatch c b bFlags lo hi with
    | some j => markMatches b range cs (i + 1) (true :: aFlags) (bFlags.setIfInBounds j true)
    | none => markMatches b range cs (i + 1) (false :: aFlags) bFlags

def flagged : List Char → List Bool → List Char
  | c :: cs, f :: fs => if f then c :: flagged cs fs else flagged cs fs
  | _, _ => []

def jaro (a b : List Char) : Binary64 :=
  if a.isEmpty && b.isEmpty then Binary64.ofNat 1
  else if a.isEmpty || b.isEmpty then Binary64.zero false
  else
    let range := max a.length b.length / 2 - 1
    let bs := b.toArray
    let (aFlags, bFlags) := markMatches bs range a 0 [] (Array.replicate b.length false)
    let aMatched := flagged a aFlags
    let bMatched := flagged b bFlags.toList
    let m := aMatched.length
    let t := ((aMatched.zip bMatched).filter fun p => p.1 != p.2).length / 2
    if m = 0 then Binary64.zero false
    else
      let part (n d : Nat) : Binary64 := (Binary64.ofNat n).div (Binary64.ofNat d)
      ((part m a.length).add (part m b.length) |>.add (part (m - t) m)).div (Binary64.ofNat 3)

/-- The binary64 value nearest to `0.7`. -/
def similarityFloor : Binary64 := Binary64.ofRatio false 7 10

/-- The candidate most similar to `s` with similarity above `0.7`; of equals, the later. -/
def mostSimilar (s : String) (candidates : List String) : Option String :=
  let scored := candidates.filterMap fun c =>
    let score := jaro s.toList c.toList
    if similarityFloor.lt score then some (c, score) else none
  scored.foldl (fun best p => match best with
    | some (_, b) => if p.2.lt b then best else some p
    | none => some p) none |>.map Prod.fst

end Xtql.Text
