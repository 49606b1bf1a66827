import Xtql.Number.Shortest

/-!
How a shortest decimal is written: which exponents are positional, the exponent mark and the
tie rule.
-/

namespace Xtql.Number

/-- The decisions of a number format. -/
structure Layout where
  /-- exponents `e` of the leading digit with `plainFrom ≤ e` (and below `plainBelow`) are
  written positionally -/
  plainFrom : Int
  /-- exponents from here on are written as `d.ddde+X`; `none` writes every value positionally -/
  plainBelow : Option Int
  /-- a positive exponent carries a `+` -/
  expPlus : Bool
  /-- how the digit search settles a tie -/
  tie : Tie

/-- Documents: positional from `1e-5` up to below `1e16`, else `1e+16`, `1.5e-7`; ties go
to the even digit. -/
def Layout.document : Layout where
  plainFrom := -5
  plainBelow := some 16
  expPlus := true
  tie := .toEven

def zeros (n : Nat) : String := String.ofList (List.replicate n '0')

namespace Layout

/-- Writes `digits × 10^exp` (digits without trailing zeros, nonzero) under the layout. -/
def writeDecimal (l : Layout) (d : Decimal) : String :=
  let ds := Nat.toDigits 10 d.digits
  let len := ds.length
  -- the exponent of the leading digit
  let lead : Int := d.exp + len - 1
  let positional := l.plainFrom ≤ lead && (match l.plainBelow with
    | some b => lead < b
    | none => true)
  if positional then
    if 0 ≤ d.exp then String.ofList ds ++ zeros d.exp.toNat ++ ".0"
    else if 0 ≤ lead then
      let whole := (lead + 1).toNat
      String.ofList (ds.take whole) ++ "." ++ String.ofList (ds.drop whole)
    else "0." ++ zeros (-lead - 1).toNat ++ String.ofList ds
  else
    let mantissa := match ds with
      | [c] => String.singleton c
      | c :: rest => String.singleton c ++ "." ++ String.ofList rest
      | [] => "0"
    let sign := if lead < 0 then "-" else if l.expPlus then "+" else ""
    mantissa ++ "e" ++ sign ++ toString lead.natAbs

def write (l : Layout) (x : Binary64) : String :=
  let sign := if x.negative then "-" else ""
  if x.isZero then sign ++ "0.0"
  else sign ++ l.writeDecimal (x.shortest l.tie)

end Layout

end Xtql.Number
