import Mathlib
import Rewards.Decimal.Reading
import Rewards.Proofs.Decimal.Rounding
import Rewards.Proofs.Text.Numeral

/-!
Reading decimals. A decimal that lies next to a float, as `Within` says it, is read as that float.
-/

namespace Rewards.Decimal

open Text Rounding Binary Shortest
open Float.Model Float.Model.UnpackedFloat

theorem div_finite {a b m : ℕ} {q : ℤ} (ha : 0 < a) (hb : 0 < b) (hc : Canonical m q) (hm : 0 < m)
    (hv : Within m q (a / b)) :
    UnpackedFloat.div Format.binary64 (.finite .positive a 0 ha) (.finite .positive b 0 hb) =
      .finite .positive m q hm := by
  have ht : divCore Format.binary64 a 0 b 0 =
      let t := min 0 (max ((a.log2 : ℤ) - b.log2 - 53) (-1074))
      ((a * 2 ^ (-t).toNat) / b, t, accuracyOfFraction ((a * 2 ^ (-t).toNat) % b) b) := by
    have h : Format.binary64.targetExponent (totalExponent a 0 - totalExponent b 0) =
        max ((a.log2 : ℤ) - b.log2 - 53) (-1074) := by
      have h1 : (Format.binary64.mantissaBits : ℤ) = 53 := rfl
      have h2 : Format.binary64.minExponent = -1074 := by decide
      rw [Format.targetExponent, totalExponent, totalExponent, h1, h2]
      congr 1
      ring
    simp only [divCore, h, sub_zero, zero_sub, Nat.shiftLeft_eq]
  simp only [UnpackedFloat.div, ht]
  generalize htd : min 0 (max ((a.log2 : ℤ) - b.log2 - 53) (-1074)) = t
  have hx := locates_div (a * 2 ^ (-t).toNat) hb
  refine roundWithAccuracy_eq hx ?_ hc hm ?_
  · by_cases h : t ≤ -1074
    · exact .inl h
    · right
      rw [Nat.le_div_iff_mul_le hb]
      have h1 : b ≤ 2 ^ (b.log2 + 1) := (Nat.lt_log2_self (n := b)).le
      have h2 : 2 ^ a.log2 ≤ a := Nat.log2_self_le ha.ne'
      calc 2 ^ 52 * b ≤ 2 ^ 52 * 2 ^ (b.log2 + 1) := Nat.mul_le_mul_left _ h1
        _ = 2 ^ (52 + (b.log2 + 1)) := (Nat.pow_add ..).symm
        _ ≤ 2 ^ (a.log2 + (-t).toNat) := Nat.pow_le_pow_right two_pos (by omega)
        _ = 2 ^ a.log2 * 2 ^ (-t).toNat := Nat.pow_add ..
        _ ≤ a * 2 ^ (-t).toNat := Nat.mul_le_mul_right _ h2
  · have h : ((a * 2 ^ (-t).toNat : ℕ) / b * 2 ^ t : ℚ) = a / b := by
      have : (2 : ℚ) ^ (-t).toNat * 2 ^ t = 1 := by
        rw [← zpow_natCast, ← zpow_add₀ two_ne_zero, show (((-t).toNat : ℤ) + t) = 0 by omega,
          zpow_zero]
      push_cast
      rw [div_mul_eq_mul_div, mul_assoc, this, mul_one]
    rwa [h]

theorem mul_finite {a b m : ℕ} {q : ℤ} (ha : 0 < a <<< 53) (hb : 0 < b) (ha0 : 0 < a)
    (hc : Canonical m q) (hm : 0 < m) (hv : Within m q (a * b)) :
    UnpackedFloat.mul Format.binary64 (.finite .positive (a <<< 53) (-53) ha)
      (.finite .positive b 0 hb) = .finite .positive m q hm := by
  simp only [UnpackedFloat.mul, Nat.shiftLeft_eq]
  refine roundWithAccuracy_eq (locates_exact _) ?_ hc hm ?_
  · right
    calc 2 ^ 52 ≤ 1 * 2 ^ 53 * 1 := by norm_num
      _ ≤ a * 2 ^ 53 * b := Nat.mul_le_mul (Nat.mul_le_mul_right _ ha0) hb
  · have h : ((a * 2 ^ 53 * b : ℕ) * 2 ^ (-53 + 0 : ℤ) : ℚ) = a * b := by
      have h2 : (2 : ℚ) ^ (-53 + 0 : ℤ) = (2 ^ 53)⁻¹ := by norm_num
      rw [h2, Nat.cast_mul, Nat.cast_mul, Nat.cast_pow, Nat.cast_ofNat]
      field_simp
    rwa [h]

theorem Rounding.Within.pos {m : ℕ} {q : ℤ} {v : ℚ} (hm : 0 < m) (h : Within m q v) :
    2 ^ (q - 1) ≤ v := by
  have hb : 2 ≤ quarterBelow m q := by have := quarterBelow_ge m q; omega
  calc (2 : ℚ) ^ (q - 1) = 2 * 2 ^ (q - 2) := by
        rw [show q - 1 = 1 + (q - 2) by ring, zpow_add₀ two_ne_zero, zpow_one]
    _ ≤ quarterBelow m q * 2 ^ (q - 2) :=
        mul_le_mul_of_nonneg_right (by exact_mod_cast hb) (zpow_nonneg two_pos.le _)
    _ ≤ v := h.1

theorem Rounding.Within.lt {m : ℕ} {q : ℤ} {v : ℚ} (hc : Canonical m q) (h : Within m q v) :
    v < 2 ^ 1024 := by
  have hm : 4 * m + 2 < 2 ^ 55 := by obtain h | h := hc <;> omega
  have hq : q - 2 ≤ 969 := by obtain h | h := hc <;> omega
  calc v ≤ (4 * m + 2) * 2 ^ (q - 2) := h.2.1
    _ < 2 ^ 55 * 2 ^ (q - 2) :=
        mul_lt_mul_of_pos_right (by exact_mod_cast hm) (zpow_pos two_pos _)
    _ ≤ 2 ^ 55 * 2 ^ (969 : ℤ) :=
        mul_le_mul_of_nonneg_left (zpow_le_zpow_right₀ one_le_two hq) (by norm_num)
    _ = 2 ^ 1024 := by rw [show (969 : ℤ) = (969 : ℕ) from rfl, zpow_natCast, ← pow_add]

/-- The decimal places of a value that a float stands for. -/
theorem magnitude_bounds {n m : ℕ} {e q : ℤ} (hc : Canonical m q) (hm : 0 < m)
    (hv : Within m q (n * 10 ^ e)) :
    0 < n ∧ -324 < ((numeral n).length : ℤ) + e ∧ ((numeral n).length : ℤ) + e ≤ 309 := by
  have hpos := hv.pos hm
  have hlt := hv.lt hc
  have he : (0 : ℚ) < 10 ^ e := zpow_pos (by norm_num) e
  have hn : 0 < n := by
    rw [Nat.pos_iff_ne_zero]
    rintro rfl
    rw [Nat.cast_zero, zero_mul] at hpos
    exact absurd hpos (not_le.2 (zpow_pos two_pos _))
  have hl := List.length_pos_iff.2 (numeral_ne_nil n)
  refine ⟨hn, ?_, ?_⟩
  · have h1 : (n : ℚ) < 10 ^ (numeral n).length := by exact_mod_cast lt_pow_length_numeral n
    have h2 : (n * 10 ^ e : ℚ) < 10 ^ (((numeral n).length : ℤ) + e) := by
      rw [zpow_add₀ (by norm_num), zpow_natCast]
      exact mul_lt_mul_of_pos_right h1 he
    have h3 : (10 : ℚ) ^ (-324 : ℤ) ≤ 2 ^ (q - 1) := by
      have hq : -1075 ≤ q - 1 := by obtain h | h := hc <;> omega
      refine le_trans ?_ (zpow_le_zpow_right₀ one_le_two hq)
      rw [zpow_neg, zpow_neg]
      refine inv_anti₀ (zpow_pos two_pos _) ?_
      have : 2 ^ 1075 ≤ 10 ^ 324 := by decide +kernel
      exact_mod_cast this
    exact (zpow_lt_zpow_iff_right₀ (by norm_num)).1 (h3.trans_lt (hpos.trans_lt h2))
  · have h1 : ((10 ^ ((numeral n).length - 1) : ℕ) : ℚ) ≤ n := by
      exact_mod_cast pow_length_numeral_le hn
    have h2 : (10 : ℚ) ^ (((numeral n).length - 1 : ℤ) + e) ≤ n * 10 ^ e := by
      rw [zpow_add₀ (by norm_num)]
      refine mul_le_mul_of_nonneg_right (le_trans (le_of_eq ?_) h1) he.le
      rw [Nat.cast_pow, ← zpow_natCast]
      push_cast [Nat.cast_sub hl]
      rfl
    have h3 : (2 : ℚ) ^ 1024 ≤ 10 ^ (309 : ℤ) := by
      have : 2 ^ 1024 ≤ 10 ^ 309 := by decide +kernel
      exact_mod_cast this
    have := (zpow_lt_zpow_iff_right₀ (by norm_num)).1 ((h2.trans_lt hlt).trans_le h3)
    omega

/-- A decimal that lies next to a float is read as that float. -/
theorem ofFloat_scaled {n m : ℕ} {e q : ℤ} (hc : Canonical m q) (hm : 0 < m)
    (hv : Within m q (n * 10 ^ e)) : ofFloat (scaled n e) = finite false m q := by
  obtain ⟨hn, hlow, hhigh⟩ := magnitude_bounds hc hm hv
  have hlog : (numeral n).length - 1 ≤ n.log2 := by
    rw [Nat.le_log2 hn.ne']
    exact (Nat.pow_le_pow_left (by norm_num) _).trans (pow_length_numeral_le hn)
  have hl := List.length_pos_iff.2 (numeral_ne_nil n)
  rw [scaled, if_neg (by omega), if_neg (by omega)]
  have h : UnpackedFloat.ofScientific Format.binary64 n e = .finite .positive m q hm := by
    rw [UnpackedFloat.ofScientific, dif_neg hn.ne',
      if_neg (by change ¬ e > 2 ^ 11; omega),
      if_neg (by change ¬ e < -((2 ^ 11 : ℤ) + n.log2); omega)]
    split
    · rename_i h0
      refine mul_finite _ (Nat.pow_pos (by norm_num)) hn hc hm ?_
      have : ((10 ^ e.toNat : ℕ) : ℚ) = 10 ^ e := by
        rw [Nat.cast_pow, ← zpow_natCast]
        rw [Int.toNat_of_nonneg h0]
        norm_num
      rwa [this]
    · rename_i h0
      refine div_finite hn (Nat.pow_pos (by norm_num)) hc hm ?_
      have : (n / (10 ^ (-e).toNat : ℕ) : ℚ) = n * 10 ^ e := by
        rw [Nat.cast_pow, ← zpow_natCast, div_eq_mul_inv, ← zpow_neg,
          Int.toNat_of_nonneg (by omega), neg_neg]
        norm_num
      rwa [this]
  rw [Float.Model.ofScientific, h]
  exact ofFloat_pack hm hc

end Rewards.Decimal
