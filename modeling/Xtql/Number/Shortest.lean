import Xtql.Number.Binary64

/-!
The shortest decimal that reads back as a given binary64 value, nearest to it among those of
its length.
-/

namespace Xtql.Number

-- Powers of naturals and integers are `Nat.pow` and `Int.pow` whatever algebra is in scope;
-- literal exponents carry their type, so that no default instance picks another power.
attribute [local instance (high)] instPowNat

structure Decimal where
  digits : Nat
  exp : Int
deriving DecidableEq, Repr, Inhabited

inductive Tie where
  | toEven
  | up
deriving DecidableEq, Repr

def cmpScaled (a : Nat) (i : Int) (n : Nat) (j : Int) : Ordering :=
  compare (a * 10 ^ i.toNat * 2 ^ (-j).toNat) (n * 2 ^ j.toNat * 10 ^ (-i).toNat)

namespace Binary64

/-- Whether a decimal reads back as the magnitude of `x`: it lies in the interval of reals
that round to `|x|`. -/
def readsBack (x : Binary64) (d : Decimal) : Bool :=
  let m := x.significand
  let lo := if x.narrowBelow then 4 * m - 1 else 4 * m - 2
  let hi := 4 * m + 2
  let incl := m % 2 == 0
  let cl := cmpScaled d.digits d.exp lo (x.exponent - 2)
  let ch := cmpScaled d.digits d.exp hi (x.exponent - 2)
  (cl == .gt || (incl && cl == .eq)) && (ch == .lt || (incl && ch == .eq))

/-- The least `k` with `|x| < 10^k`, for a nonzero finite `x`. The digit counts of the two
sides of the ratio leave two choices. -/
def decimalScale (x : Binary64) : Int :=
  let (num, den) := x.ratio
  let est : Int := (decimalDigits num : Int) - (decimalDigits den : Int)
  let below := if 0 ≤ est then num < den * 10 ^ est.toNat else num * 10 ^ (-est).toNat < den
  if below then est else est + 1

def floorOnGrid (x : Binary64) (g : Int) : Nat :=
  let (num, den) := x.ratio
  (num * 10 ^ (-g).toNat) / (den * 10 ^ g.toNat)

/-- The decimal of `n` digits that reads back as `x` and lies nearest to it, if one does. -/
def onGrid (x : Binary64) (tie : Tie) (n : Nat) : Option Decimal :=
  let g := x.decimalScale - n
  let c := x.floorOnGrid g
  let lower : Decimal := ⟨c, g⟩
  let upper : Decimal := ⟨c + 1, g⟩
  match x.readsBack lower, x.readsBack upper with
  | true, true =>
    -- compare the midpoint of the two with the value
    match cmpScaled (2 * c + 1) g (2 * x.significand) x.exponent with
    | .gt => some lower
    | .lt => some upper
    | .eq =>
      match tie with
      | .toEven => if c % 2 = 0 then some lower else some upper
      | .up => some upper
  | true, false => some lower
  | false, true => some upper
  | false, false => none

def exactDecimal (x : Binary64) : Decimal :=
  let q := x.exponent
  if 0 ≤ q then ⟨x.significand * 2 ^ q.toNat, 0⟩ else ⟨x.significand * 5 ^ (-q).toNat, q⟩

end Binary64

namespace Decimal

def stripZeros (d : Decimal) : Decimal :=
  if h : 0 < d.digits ∧ d.digits % 10 = 0 then
    stripZeros ⟨d.digits / 10, d.exp + 1⟩
  else d
termination_by d.digits
decreasing_by exact Nat.div_lt_self h.1 (by decide)

end Decimal

namespace Binary64

/-- The shortest decimal that reads back as the magnitude of a nonzero finite `x`, nearest
to it among those of its length, without trailing zeros. Seventeen digits always suffice;
the exact value stands behind them. -/
def shortest (x : Binary64) (tie : Tie) : Decimal :=
  match (List.range 17).findSome? (fun i => x.onGrid tie (i + 1)) with
  | some d => d.stripZeros
  | none => x.exactDecimal.stripZeros

end Binary64

end Xtql.Number
