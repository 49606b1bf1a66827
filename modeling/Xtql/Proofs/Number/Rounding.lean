import Xtql.Proofs.Number.ExactDecimal

/-!
Reading a decimal gives a finite value or an infinity, never a NaN.
-/

namespace Xtql.Number

theorem roundHalfEven_le {a b n : Nat} (h : a < b * n) : roundHalfEven a b ≤ n := by
  have hq : a / b < n := Nat.div_lt_of_lt_mul h
  unfold roundHalfEven
  dsimp only
  split_ifs <;> omega

namespace Binary64

theorem exponentField_ofFields {neg : Bool} {e f : Nat} (he : e < 2 ^ 11) (hf : f < 2 ^ 52) :
    (ofFields neg e f).exponentField = e := by
  rw [exponentField_eq]
  show (UInt64.ofNat _).toNat / 2 ^ 52 % 2 ^ 11 = e
  rw [UInt64.toNat_ofNat']
  split <;> omega

theorem isFinite_ofFields {neg : Bool} {e f : Nat} (he : e < 0x7FF) (hf : f < 2 ^ 52) :
    (ofFields neg e f).isFinite = true := by
  rw [isFinite, exponentField_ofFields (by omega) hf]
  simpa using he.ne

theorem isFinite_infinity (neg : Bool) : (infinity neg).isFinite = false := by
  rw [infinity, isFinite, exponentField_ofFields (by omega) (by omega)]
  rfl

theorem isFinite_zero (neg : Bool) : (zero neg).isFinite = true :=
  isFinite_ofFields (by omega) (by omega)

/-- The last step of `ofRatio`: a significand of at most 53 bits at an exponent no lower than the
least one is written as a finite value, or as infinity past the greatest exponent. -/
theorem fields_isFinite_or {neg : Bool} {m : Nat} {q : Int} (hm : m < 2 ^ 53) (hq : -1074 ≤ q) :
    (if q > 971 then infinity neg else if m < 2 ^ 52 then ofFields neg 0 m
      else ofFields neg (q + 1075).toNat (m - 2 ^ 52)).isFinite = true ∨
    (if q > 971 then infinity neg else if m < 2 ^ 52 then ofFields neg 0 m
      else ofFields neg (q + 1075).toNat (m - 2 ^ 52)) = infinity neg := by
  split_ifs with h971 h52
  · exact .inr rfl
  · exact .inl (isFinite_ofFields (by omega) (by omega))
  · exact .inl (isFinite_ofFields (by omega) (by omega))

theorem lt_two_zpow_binade (num : Nat) {den : Nat} (hden : den ≠ 0) :
    (num : ℚ) < den * 2 ^ ((if ltScaledTwo num den ((Nat.log2 num : Int) - Nat.log2 den)
      then (Nat.log2 num : Int) - Nat.log2 den - 1 else (Nat.log2 num : Int) - Nat.log2 den) + 1) := by
  split
  · rename_i hlt
    rw [sub_add_cancel]
    exact (ltScaledTwo_iff _ _ _).1 hlt
  · have h : (num : ℚ) < den * 2 ^ ((Nat.log2 num : Int) + 1 - Nat.log2 den) :=
      (ltScaledTwo_iff _ _ _).1 (ltScaledTwo_log2_succ hden)
    rwa [show (Nat.log2 num : Int) + 1 - Nat.log2 den = (Nat.log2 num : Int) - Nat.log2 den + 1 by
      ring] at h

/-- `ofRatio` gives a finite value, or infinity when the ratio is past the largest finite one. -/
theorem ofRatio_isFinite_or (neg : Bool) (num den : Nat) :
    (ofRatio neg num den).isFinite = true ∨ ofRatio neg num den = infinity neg := by
  unfold ofRatio
  split_ifs with h0
  · exact .inl (isFinite_zero neg)
  have hk := lt_two_zpow_binade num (show den ≠ 0 by omega)
  dsimp only
  generalize (if ltScaledTwo num den ((Nat.log2 num : Int) - Nat.log2 den)
    then (Nat.log2 num : Int) - Nat.log2 den - 1 else (Nat.log2 num : Int) - Nat.log2 den) = k at hk ⊢
  generalize hq : max (k - 52) (-1074) = q
  -- the ratio is below 2^53 units of the last place, so the rounded significand is at most 2^53
  have hlt : ltScaledTwo num (den * 2 ^ 53) q = true := by
    rw [ltScaledTwo_iff]
    calc (num : ℚ) < den * 2 ^ (k + 1) := hk
      _ ≤ den * 2 ^ (q + 53) :=
        mul_le_mul_of_nonneg_left (zpow_le_zpow_right₀ (by norm_num) (by omega)) (by positivity)
      _ = ((den * 2 ^ 53 : ℕ) : ℚ) * 2 ^ q := by
        push_cast
        rw [zpow_add₀ two_ne_zero]
        ring
  have hm : (if 0 ≤ q then roundHalfEven num (den * 2 ^ q.toNat)
      else roundHalfEven (num * 2 ^ (-q).toNat) den) ≤ 2 ^ 53 := by
    unfold ltScaledTwo at hlt
    split_ifs at hlt ⊢ with hq0
    · exact roundHalfEven_le (by simpa [Nat.mul_right_comm] using hlt)
    · exact roundHalfEven_le (by simpa using hlt)
  generalize (if 0 ≤ q then roundHalfEven num (den * 2 ^ q.toNat)
      else roundHalfEven (num * 2 ^ (-q).toNat) den) = m at hm ⊢
  -- a significand that rounded up to 2^53 moves to the next binade
  obtain ⟨m', q', hm', hq', heq⟩ : ∃ m' q', m' < 2 ^ 53 ∧ -1074 ≤ q' ∧
      (if m = 2 ^ 53 then (2 ^ 52, q + 1) else (m, q)) = (m', q') := by
    split_ifs with h53
    · exact ⟨_, _, by norm_num, by omega, rfl⟩
    · exact ⟨_, _, by omega, by omega, rfl⟩
  rw [heq]
  exact fields_isFinite_or hm' hq'

theorem ofDecimal_isFinite_or (neg : Bool) (digits : Nat) (exp : Int) :
    (ofDecimal neg digits exp).isFinite = true ∨ ofDecimal neg digits exp = infinity neg := by
  unfold ofDecimal
  split_ifs
  · exact .inl (isFinite_zero neg)
  · exact .inr rfl
  · exact .inl (isFinite_zero neg)
  · exact ofRatio_isFinite_or neg _ _
  · exact ofRatio_isFinite_or neg _ _

/-- A decimal reads to a value that is not finite exactly when it reads to infinity: rounding
never gives a NaN. -/
theorem ofDecimal_isFinite_eq_false_iff {neg : Bool} {digits : Nat} {exp : Int} :
    (ofDecimal neg digits exp).isFinite = false ↔ ofDecimal neg digits exp = infinity neg := by
  constructor
  · intro h
    rcases ofDecimal_isFinite_or neg digits exp with hfin | hinf
    · rw [h] at hfin
      cases hfin
    · exact hinf
  · intro h
    rw [h]
    exact isFinite_infinity neg

end Binary64

end Xtql.Number
