import Mathlib.Algebra.Order.Field.Rat
import Mathlib.Algebra.Order.Field.Power
import Mathlib.Tactic.FieldSimp
import Mathlib.Tactic.Linarith
import Mathlib.Tactic.Positivity
import Mathlib.Tactic.Ring
import Xtql.Number.Shortest

/-!
The exact decimal value of a finite float reads back as that float.
-/

namespace Xtql.Number

namespace Binary64

variable (x : Binary64)

theorem negative_eq : x.negative = (x.bits.toNat / 2 ^ 63 == 1) := by
  rw [negative, Bool.eq_iff_iff, beq_iff_eq, beq_iff_eq, ← UInt64.toNat_inj,
    UInt64.toNat_shiftRight, Nat.shiftRight_eq_div_pow]
  rfl

theorem exponentField_eq : x.exponentField = x.bits.toNat / 2 ^ 52 % 2 ^ 11 := by
  rw [exponentField, UInt64.toNat_and, UInt64.toNat_shiftRight, Nat.shiftRight_eq_div_pow]
  exact Nat.and_two_pow_sub_one_eq_mod _ 11

theorem fraction_eq : x.fraction = x.bits.toNat % 2 ^ 52 := by
  rw [fraction, UInt64.toNat_and]
  exact Nat.and_two_pow_sub_one_eq_mod _ 52

theorem toNat_bits :
    x.bits.toNat = (if x.negative then 2 ^ 63 else 0) + x.exponentField * 2 ^ 52 + x.fraction := by
  have hlt := x.bits.toNat_lt
  rw [negative_eq, exponentField_eq, fraction_eq]
  split
  · rename_i h; simp only [beq_iff_eq] at h; omega
  · rename_i h; simp only [beq_iff_eq] at h; omega

theorem ofFields_fields : ofFields x.negative x.exponentField x.fraction = x := by
  show (⟨UInt64.ofNat _⟩ : Binary64) = ⟨x.bits⟩
  rw [← toNat_bits, UInt64.ofNat_toNat]

/-- A significand and exponent that the format stores exactly: `m` of at most 53 bits, all 53
used unless `q` is the least exponent, and `q` within the finite range. -/
structure Stored (m : Nat) (q : Int) : Prop where
  lt : m < 2 ^ 53
  normal : 2 ^ 52 ≤ m ∨ q = -1074
  ge : -1074 ≤ q
  le : q ≤ 971

variable {x}

theorem stored_of_isFinite (hx : x.isFinite = true) : Stored x.significand x.exponent := by
  have hf : x.fraction < 2 ^ 52 := by rw [fraction_eq]; omega
  have he : x.exponentField < 2 ^ 11 := by rw [exponentField_eq]; omega
  have hfin : x.exponentField ≠ 0x7FF := by simpa [isFinite] using hx
  unfold significand exponent
  constructor <;> split <;> omega

theorem ofFields_significand :
    (if x.significand < 2 ^ 52 then ofFields x.negative 0 x.significand
      else ofFields x.negative (x.exponent + 1075).toNat (x.significand - 2 ^ 52)) = x := by
  have hf : x.fraction < 2 ^ 52 := by rw [fraction_eq]; omega
  conv => rhs; rw [← ofFields_fields x]
  unfold significand exponent
  split
  · rename_i h0; rw [h0]
  · rename_i h0
    rw [if_neg (by omega), show (x.exponentField - 1075 + 1075 : Int).toNat = x.exponentField by omega,
      Nat.add_sub_cancel]

end Binary64

theorem ltScaledTwo_iff (a b : Nat) (k : Int) :
    ltScaledTwo a b k = true ↔ (a : ℚ) < b * 2 ^ k := by
  unfold ltScaledTwo
  split
  · rename_i hk
    obtain ⟨n, rfl⟩ := Int.eq_ofNat_of_zero_le hk
    simp only [Int.toNat_natCast, zpow_natCast, decide_eq_true_eq]
    exact_mod_cast Iff.rfl
  · rename_i hk
    obtain ⟨n, rfl⟩ : ∃ n : Nat, k = -n := ⟨(-k).toNat, by omega⟩
    have hpos : (0 : ℚ) < 2 ^ n := by positivity
    simp only [neg_neg, Int.toNat_natCast, zpow_neg, zpow_natCast, decide_eq_true_eq]
    rw [← div_eq_mul_inv, lt_div_iff₀ hpos]
    exact_mod_cast Iff.rfl

theorem two_zpow_log2_le {n : Nat} (hn : n ≠ 0) : (2 : ℚ) ^ (Nat.log2 n : Int) ≤ n := by
  rw [zpow_natCast]; exact_mod_cast Nat.log2_self_le hn

theorem lt_two_zpow_log2_succ (n : Nat) : (n : ℚ) < 2 ^ ((Nat.log2 n : Int) + 1) := by
  rw [show (Nat.log2 n : Int) + 1 = ((Nat.log2 n + 1 : Nat) : Int) by push_cast; ring, zpow_natCast]
  exact_mod_cast Nat.lt_log2_self

theorem mul_two_zpow_lt_iff {m : Nat} (hm : 0 < m) (q j : Int) :
    (m : ℚ) * 2 ^ q < 2 ^ j ↔ (Nat.log2 m : Int) + q + 1 ≤ j := by
  have hlo := two_zpow_log2_le hm.ne'
  have hhi := lt_two_zpow_log2_succ m
  rw [← lt_div_iff₀ (by positivity), ← zpow_sub₀ two_ne_zero]
  constructor
  · intro h
    by_contra hj
    have : (2 : ℚ) ^ (j - q) ≤ 2 ^ (Nat.log2 m : Int) :=
      zpow_le_zpow_right₀ (by norm_num) (by omega)
    linarith
  · intro h
    have : (2 : ℚ) ^ ((Nat.log2 m : Int) + 1) ≤ 2 ^ (j - q) :=
      zpow_le_zpow_right₀ (by norm_num) (by omega)
    linarith

section Ratio

variable {num den m : Nat} {q : Int}

theorem ltScaledTwo_of_ratio (hm : 0 < m) (hden : 0 < den) (hval : (num : ℚ) = den * (m * 2 ^ q))
    (j : Int) : ltScaledTwo num den j = true ↔ (Nat.log2 m : Int) + q + 1 ≤ j := by
  rw [ltScaledTwo_iff, hval, mul_lt_mul_iff_right₀ (by exact_mod_cast hden),
    mul_two_zpow_lt_iff hm]

theorem ltScaledTwo_log2_succ (hden : den ≠ 0) :
    ltScaledTwo num den ((Nat.log2 num : Int) + 1 - Nat.log2 den) = true := by
  rw [ltScaledTwo_iff]
  calc (num : ℚ) < 2 ^ ((Nat.log2 num : Int) + 1) := lt_two_zpow_log2_succ num
    _ = 2 ^ (Nat.log2 den : Int) * 2 ^ ((Nat.log2 num : Int) + 1 - Nat.log2 den) := by
      rw [← zpow_add₀ two_ne_zero]; ring_nf
    _ ≤ den * 2 ^ ((Nat.log2 num : Int) + 1 - Nat.log2 den) := by
      gcongr; exact two_zpow_log2_le hden

/-- The binary logarithm `ofRatio` finds for `num / den = m × 2^q`: the difference of the
logarithms of `num` and `den` is off by at most one, and one comparison corrects it. -/
theorem binade_of_ratio (hm : 0 < m) (hden : 0 < den) (hval : (num : ℚ) = den * (m * 2 ^ q)) :
    (if ltScaledTwo num den ((Nat.log2 num : Int) - Nat.log2 den)
      then (Nat.log2 num : Int) - Nat.log2 den - 1 else (Nat.log2 num : Int) - Nat.log2 den) =
      (Nat.log2 m : Int) + q := by
  have hnum : num ≠ 0 := by
    have : (0 : ℚ) < num := by rw [hval]; positivity
    exact_mod_cast this.ne'
  have hden' : den ≠ 0 := hden.ne'
  have above : ltScaledTwo num den ((Nat.log2 num : Int) + 1 - Nat.log2 den) = true :=
    ltScaledTwo_log2_succ hden'
  have below : ltScaledTwo num den ((Nat.log2 num : Int) - Nat.log2 den - 1) = false := by
    rw [Bool.eq_false_iff, ne_eq, ltScaledTwo_iff, not_lt]
    calc (den : ℚ) * 2 ^ ((Nat.log2 num : Int) - Nat.log2 den - 1)
        ≤ 2 ^ ((Nat.log2 den : Int) + 1) * 2 ^ ((Nat.log2 num : Int) - Nat.log2 den - 1) := by
          gcongr; exact (lt_two_zpow_log2_succ den).le
      _ = 2 ^ (Nat.log2 num : Int) := by rw [← zpow_add₀ two_ne_zero]; ring_nf
      _ ≤ num := two_zpow_log2_le hnum
  rw [ltScaledTwo_of_ratio hm hden hval] at above
  rw [← Bool.not_eq_true, ltScaledTwo_of_ratio hm hden hval] at below
  split
  · rename_i hlt
    rw [ltScaledTwo_of_ratio hm hden hval] at hlt
    omega
  · rename_i hge
    rw [ltScaledTwo_of_ratio hm hden hval] at hge
    omega

theorem roundHalfEven_mul_left (m d : Nat) (hd : 0 < d) : roundHalfEven (m * d) d = m := by
  simp [roundHalfEven, Nat.mul_div_cancel _ hd, hd]

namespace Binary64

/-- A ratio `m × 2^q` that the format holds exactly, with `m` a significand in range, is read
back by `ofRatio` as the fields it is stored with. -/
theorem ofRatio_exact {neg : Bool} (hm : 0 < m) (hs : Stored m q) (hden : 0 < den)
    (hval : num * 2 ^ (-q).toNat = m * den * 2 ^ q.toNat) :
    ofRatio neg num den =
      if m < 2 ^ 52 then ofFields neg 0 m else ofFields neg (q + 1075).toNat (m - 2 ^ 52) := by
  have hq : (num : ℚ) = den * (m * 2 ^ q) := by
    have h : (num : ℚ) * 2 ^ (-q).toNat = m * den * 2 ^ q.toNat := by exact_mod_cast hval
    rw [← Int.toNat_sub_toNat_neg q, zpow_sub₀ two_ne_zero, zpow_natCast, zpow_natCast]
    field_simp
    linarith
  have hnum : num ≠ 0 := by
    have : (0 : ℚ) < num := by rw [hq]; positivity
    exact_mod_cast this.ne'
  -- the weight of the last bit is `q` itself: a normal `m` has 53 bits, a subnormal one sits
  -- at the least exponent
  have hweight : max ((Nat.log2 m : Int) + q - 52) (-1074) = q := by
    have hlt : Nat.log2 m < 53 := (Nat.log2_lt hm.ne').2 hs.lt
    have hge := hs.ge
    rcases hs.normal with hn | hq
    · have : 52 ≤ Nat.log2 m := (Nat.le_log2 hm.ne').2 hn
      omega
    · omega
  have hround : (if 0 ≤ q then roundHalfEven num (den * 2 ^ q.toNat)
      else roundHalfEven (num * 2 ^ (-q).toNat) den) = m := by
    split
    · rename_i h0
      have : num = m * (den * 2 ^ q.toNat) := by
        simpa [show (-q).toNat = 0 by omega, Nat.mul_assoc] using hval
      rw [this, roundHalfEven_mul_left _ _ (by positivity)]
    · rename_i h0
      have : num * 2 ^ (-q).toNat = m * den := by
        simpa [show q.toNat = 0 by omega] using hval
      rw [this, roundHalfEven_mul_left _ _ hden]
  unfold ofRatio
  simp only [hnum, hden.ne', or_self, if_false]
  rw [binade_of_ratio hm hden hq, hweight, hround]
  simp only [show m ≠ 2 ^ 53 from hs.lt.ne, show ¬ q > 971 from not_lt.2 hs.le, if_false]

end Binary64

end Ratio

namespace Binary64

variable {x : Binary64}

theorem decimalDigits_le_of_lt {n k : Nat} (hk : 0 < k) (h : n < 10 ^ k) : decimalDigits n ≤ k :=
  (Nat.length_toDigits_le_iff (by decide) hk).2 h

theorem lt_decimalDigits_of_le {n k : Nat} (h : 10 ^ k ≤ n) : k < decimalDigits n := by
  rcases Nat.eq_zero_or_pos k with rfl | hk
  · exact Nat.length_toDigits_pos
  · by_contra hle
    have := (Nat.length_toDigits_le_iff (by decide) hk).1 (Nat.le_of_not_lt hle)
    omega

theorem ofDecimal_of_window {neg : Bool} {digits : Nat} {exp : Int} (hd : 0 < digits)
    (hhi : exp + decimalDigits digits ≤ 310) (hlo : -330 ≤ exp + decimalDigits digits) :
    ofDecimal neg digits exp = if 0 ≤ exp then ofRatio neg (digits * 10 ^ exp.toNat) 1
      else ofRatio neg digits (10 ^ (-exp).toNat) := by
  simp only [ofDecimal, hd.ne', show ¬ exp + decimalDigits digits > 310 by omega,
    show ¬ exp + decimalDigits digits < -330 by omega, if_false]

theorem ten_pow_le_five_pow {j : Nat} (hj : j ≤ 744) : 10 ^ j ≤ 5 ^ (330 + j) :=
  calc 10 ^ j = 2 ^ j * 5 ^ j := by rw [← Nat.mul_pow]
    _ ≤ 5 ^ 330 * 5 ^ j :=
      Nat.mul_le_mul_right _ (le_trans (Nat.pow_le_pow_right (by decide) hj) (by decide +kernel))
    _ = 5 ^ (330 + j) := by rw [Nat.pow_add]

theorem exactDecimal_of_nonneg (h : 0 ≤ x.exponent) :
    x.exactDecimal = ⟨x.significand * 2 ^ x.exponent.toNat, 0⟩ := by
  simp [exactDecimal, h]

theorem exactDecimal_of_neg {t : Nat} (h : x.exponent = -t) :
    x.exactDecimal = ⟨x.significand * 5 ^ t, -t⟩ := by
  rcases Nat.eq_zero_or_pos t with rfl | ht
  · simp_all [exactDecimal]
  · simp [exactDecimal, h, ht.ne']

/-- Reading the exact decimal value of a finite float gives the float back. -/
theorem ofDecimal_exactDecimal (hx : x.isFinite = true) :
    ofDecimal x.negative x.exactDecimal.digits x.exactDecimal.exp = x := by
  have hs := stored_of_isFinite hx
  rcases Nat.eq_zero_or_pos x.significand with h0 | hm
  · -- a zero of either sign: both its fields are zero
    have hfields : x.exponentField = 0 ∧ x.fraction = 0 := by
      unfold significand at h0; split at h0 <;> omega
    have hd : x.exactDecimal.digits = 0 := by simp only [exactDecimal]; split <;> simp [h0]
    rw [ofDecimal, if_pos hd, zero]
    conv => rhs; rw [← ofFields_fields x, hfields.1, hfields.2]
  · conv => rhs; rw [← ofFields_significand (x := x)]
    rcases le_or_gt 0 x.exponent with hq | hq
    · simp only [exactDecimal_of_nonneg hq]
      -- the value `m × 2^q` is an integer below 2^1024 < 10^309
      have hbelow : x.significand * 2 ^ x.exponent.toNat < 10 ^ 309 :=
        calc x.significand * 2 ^ x.exponent.toNat < 2 ^ 53 * 2 ^ 971 :=
              Nat.mul_lt_mul_of_lt_of_le hs.lt (Nat.pow_le_pow_right (by decide) (by
                have := hs.le; omega)) (by positivity)
          _ ≤ 10 ^ 309 := by decide +kernel
      have hdd := decimalDigits_le_of_lt (by decide) hbelow
      rw [ofDecimal_of_window (Nat.mul_pos hm (by positivity)) (by omega) (by omega), if_pos le_rfl]
      exact ofRatio_exact hm hs (by decide) (by simp [show (-x.exponent).toNat = 0 by omega])
    · -- the value `m × 5^t / 10^t` with `t = -q`, `1 ≤ t ≤ 1074`
      obtain ⟨t, ht⟩ : ∃ t : Nat, x.exponent = -t := ⟨(-x.exponent).toNat, by omega⟩
      have hle := hs.ge
      simp only [exactDecimal_of_neg ht]
      have hbelow : x.significand * 5 ^ t < 10 ^ (310 + t) :=
        calc x.significand * 5 ^ t < 10 ^ 310 * 10 ^ t :=
              Nat.mul_lt_mul_of_lt_of_le (lt_trans hs.lt (by decide +kernel))
                (Nat.pow_le_pow_left (by decide) t) (by positivity)
          _ = 10 ^ (310 + t) := by rw [Nat.pow_add]
      have habove : 10 ^ (t - 330) ≤ x.significand * 5 ^ t := by
        refine le_trans ?_ (Nat.le_mul_of_pos_left _ hm)
        rcases Nat.lt_or_ge t 330 with ht' | ht'
        · rw [show t - 330 = 0 by omega]; exact Nat.one_le_pow _ _ (by decide)
        · have := ten_pow_le_five_pow (j := t - 330) (by omega)
          rwa [show 330 + (t - 330) = t by omega] at this
      have hdd := decimalDigits_le_of_lt (by omega) hbelow
      have hdd' := lt_decimalDigits_of_le habove
      rw [ofDecimal_of_window (Nat.mul_pos hm (by positivity)) (by omega) (by omega),
        if_neg (by omega)]
      rw [neg_neg, Int.toNat_natCast]
      refine ofRatio_exact hm hs (by positivity) ?_
      rw [ht, neg_neg, Int.toNat_natCast, show (-(t : Int)).toNat = 0 by omega, Nat.pow_zero,
        Nat.mul_one, Nat.mul_assoc, ← Nat.mul_pow]

end Binary64

end Xtql.Number
