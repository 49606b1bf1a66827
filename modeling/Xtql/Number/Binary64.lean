/-!
IEEE 754 binary64 values as bit patterns, and rounding of exact ratios and decimals to the
nearest of them.
-/

namespace Xtql.Number

-- Powers of naturals and integers are `Nat.pow` and `Int.pow` whatever algebra is in scope;
-- literal exponents carry their type, so that no default instance picks another power.
attribute [local instance (high)] instPowNat

/-- An IEEE 754 binary64 value, held as its 64-bit pattern. -/
structure Binary64 where
  bits : UInt64
deriving DecidableEq, Repr, Inhabited

namespace Binary64

def negative (x : Binary64) : Bool := x.bits >>> 63 == 1

def exponentField (x : Binary64) : Nat := ((x.bits >>> 52) &&& 0x7FF).toNat

def fraction (x : Binary64) : Nat := (x.bits &&& 0xFFFFFFFFFFFFF).toNat

def isFinite (x : Binary64) : Bool := x.exponentField != 0x7FF

def ofFields (neg : Bool) (e f : Nat) : Binary64 :=
  ⟨UInt64.ofNat ((if neg then 2 ^ (63 : Nat) else 0) + e * 2 ^ (52 : Nat) + f)⟩

def zero (neg : Bool) : Binary64 := ofFields neg 0 0

def infinity (neg : Bool) : Binary64 := ofFields neg 0x7FF 0

/-- The integer significand `m` of a finite value `m × 2^q`. -/
def significand (x : Binary64) : Nat :=
  if x.exponentField = 0 then x.fraction else x.fraction + 2 ^ (52 : Nat)

def exponent (x : Binary64) : Int :=
  if x.exponentField = 0 then -1074 else (x.exponentField : Int) - 1075

/-- Whether the gap to the next smaller magnitude is half the gap to the next larger one:
the value is a power of two above the least normal one. -/
def narrowBelow (x : Binary64) : Bool := x.fraction == 0 && x.exponentField > 1

def ratio (x : Binary64) : Nat × Nat :=
  let q := x.exponent
  (x.significand * 2 ^ q.toNat, 2 ^ (-q).toNat)

def isZero (x : Binary64) : Bool := x.exponentField == 0 && x.fraction == 0

end Binary64

/-- `num / den` rounded to the nearest natural, a tie going to the even one. -/
def roundHalfEven (num den : Nat) : Nat :=
  let q := num / den
  let r := num % den
  if 2 * r < den then q
  else if 2 * r > den then q + 1
  else if q % 2 = 0 then q else q + 1

def ltScaledTwo (a b : Nat) (k : Int) : Bool :=
  if 0 ≤ k then a < b * 2 ^ k.toNat else a * 2 ^ (-k).toNat < b

namespace Binary64

/-- The binary64 value nearest to `num / den`, with sign `neg`: a tie goes to the even
significand, a value too large for the format becomes infinity and one too small becomes
zero or a subnormal. -/
def ofRatio (neg : Bool) (num den : Nat) : Binary64 :=
  if num = 0 ∨ den = 0 then zero neg
  else
    -- the binary logarithm of the ratio, rounded down
    let k0 : Int := (Nat.log2 num : Int) - (Nat.log2 den : Int)
    let k := if ltScaledTwo num den k0 then k0 - 1 else k0
    -- the weight of the last significand bit
    let q : Int := max (k - 52) (-1074)
    let m := if 0 ≤ q then roundHalfEven num (den * 2 ^ q.toNat)
      else roundHalfEven (num * 2 ^ (-q).toNat) den
    let (m, q) := if m = 2 ^ (53 : Nat) then (2 ^ (52 : Nat), q + 1) else (m, q)
    if q > 971 then infinity neg
    else if m < 2 ^ (52 : Nat) then ofFields neg 0 m
    else ofFields neg (q + 1075).toNat (m - 2 ^ (52 : Nat))

def decimalDigits (n : Nat) : Nat := (Nat.toDigits 10 n).length

/-- The binary64 value nearest to `digits × 10^exp`, with sign `neg`. Exponents far outside
the range of the format give infinity or zero without computing the power. -/
def ofDecimal (neg : Bool) (digits : Nat) (exp : Int) : Binary64 :=
  if digits = 0 then zero neg
  else if exp + decimalDigits digits > 310 then infinity neg
  else if exp + decimalDigits digits < -330 then zero neg
  else if 0 ≤ exp then ofRatio neg (digits * 10 ^ exp.toNat) 1
  else ofRatio neg digits (10 ^ (-exp).toNat)

def ofNat (n : Nat) : Binary64 := ofRatio false n 1

def mul (x y : Binary64) : Binary64 :=
  ofRatio false (x.ratio.1 * y.ratio.1) (x.ratio.2 * y.ratio.2)

def div (x y : Binary64) : Binary64 :=
  ofRatio false (x.ratio.1 * y.ratio.2) (x.ratio.2 * y.ratio.1)

def add (x y : Binary64) : Binary64 :=
  ofRatio false (x.ratio.1 * y.ratio.2 + y.ratio.1 * x.ratio.2) (x.ratio.2 * y.ratio.2)

def lt (x y : Binary64) : Bool := x.ratio.1 * y.ratio.2 < y.ratio.1 * x.ratio.2

def neg (x : Binary64) : Binary64 := ⟨x.bits ^^^ 0x8000000000000000⟩

end Binary64

end Xtql.Number
