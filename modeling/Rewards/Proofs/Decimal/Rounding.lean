import Mathlib
import Rewards.Decimal.Shortest
import Rewards.Proofs.Decimal.Binary

/-!
Rounding of exact values to floats. A value that lies nearer to a float than to its neighbours, or
in the middle where the significand is even, is rounded to that float.
-/

namespace Rewards.Decimal

open Float.Model Float.Model.UnpackedFloat

namespace Rounding

/-- The two bits tell where above the mantissa the exact value lies: on it, below the half of the
unit, on the half, or above it. -/
def Locates (em : ExtendedMantissa) (x : ℚ) : Prop :=
  match em.roundBit, em.stickyBit with
  | false, false => x = em.mantissa
  | false, true => em.mantissa < x ∧ 2 * x < 2 * em.mantissa + 1
  | true, false => 2 * x = 2 * em.mantissa + 1
  | true, true => 2 * em.mantissa + 1 < 2 * x ∧ x < em.mantissa + 1

theorem Locates.le {em : ExtendedMantissa} {x : ℚ} (h : Locates em x) : (em.mantissa : ℚ) ≤ x := by
  obtain ⟨m, r, s⟩ := em
  cases r <;> cases s <;> simp only [Locates] at h <;> linarith

theorem Locates.lt {em : ExtendedMantissa} {x : ℚ} (h : Locates em x) : x < em.mantissa + 1 := by
  obtain ⟨m, r, s⟩ := em
  cases r <;> cases s <;> simp only [Locates] at h <;> linarith

theorem Locates.shiftRightOne {em : ExtendedMantissa} {x : ℚ} (h : Locates em x) :
    Locates em.shiftRightOne (x / 2) := by
  obtain ⟨m, r, s⟩ := em
  have hm : ((m / 2 : ℕ) : ℚ) * 2 + ((m % 2 : ℕ) : ℚ) = m := by exact_mod_cast Nat.div_add_mod' m 2
  obtain h2 | h2 : m % 2 = 0 ∨ m % 2 = 1 := by omega
  all_goals
    rw [h2] at hm
    cases r <;> cases s <;> simp [Locates, ExtendedMantissa.shiftRightOne, h2] at h hm ⊢
  all_goals first | linarith | (constructor <;> linarith)

theorem Locates.shiftRight {em : ExtendedMantissa} {x : ℚ} (h : Locates em x) (n : ℕ) :
    Locates (em >>> n) (x / 2 ^ n) := by
  change Locates (n.repeat ExtendedMantissa.shiftRightOne em) _
  induction n with
  | zero => simpa [Nat.repeat] using h
  | succ n ih =>
    rw [Nat.repeat, pow_succ, ← div_div]
    exact ih.shiftRightOne

/-- Of all integers the nearest is chosen, and the even one in the middle. -/
theorem Locates.rounded {em : ExtendedMantissa} {x : ℚ} {k : ℕ} (h : Locates em x)
    (hl : 2 * (k : ℚ) - 1 ≤ 2 * x) (hr : 2 * x ≤ 2 * k + 1)
    (he : k % 2 = 1 → 2 * (k : ℚ) - 1 < 2 * x ∧ 2 * x < 2 * k + 1) : em.roundedMantissa = k := by
  obtain ⟨m, r, s⟩ := em
  have hle := h.le
  have hlt := h.lt
  simp only at hle hlt
  have hlow : k < m + 2 := by
    have : (2 * k : ℚ) < 2 * (m + 2) := by linarith
    exact_mod_cast lt_of_mul_lt_mul_left this zero_le_two
  have hhigh : m < k + 1 := by
    have : (2 * m : ℚ) < 2 * (k + 1) := by linarith
    exact_mod_cast lt_of_mul_lt_mul_left this zero_le_two
  obtain hk | hk : k = m ∨ k = m + 1 := by omega
  · subst hk
    cases r <;> cases s <;> simp only [Locates] at h
    · rfl
    · rfl
    · have hk : k % 2 = 0 := by
        by_contra hk
        linarith [(he (by omega)).2]
      simp [ExtendedMantissa.roundedMantissa, ExtendedMantissa.accuracy,
        Accuracy.roundToNearestEven, hk]
    · linarith
  · subst hk
    push_cast at hl hr he
    cases r <;> cases s <;> simp only [Locates] at h
    · linarith
    · linarith
    · have hk : m % 2 = 1 := by
        by_contra hk
        linarith [(he (by omega)).1]
      simp [ExtendedMantissa.roundedMantissa, ExtendedMantissa.accuracy,
        Accuracy.roundToNearestEven, hk]
    · rfl

theorem locates_exact (m : ℕ) : Locates (.ofMantissaAndAccuracy m .exact) m := rfl

/-- A quotient and what its remainder says about the exact value. -/
theorem locates_div (a : ℕ) {b : ℕ} (hb : 0 < b) :
    Locates (.ofMantissaAndAccuracy (a / b) (accuracyOfFraction (a % b) b)) (a / b : ℚ) := by
  have hq : (0 : ℚ) < b := by exact_mod_cast hb
  have hx : (a / b : ℚ) = (a / b : ℕ) + (a % b : ℕ) / b := by
    have : (b : ℚ) * (a / b : ℕ) + (a % b : ℕ) = a := by exact_mod_cast Nat.div_add_mod a b
    field_simp
    linarith
  have hr : a % b < b := Nat.mod_lt a hb
  have hrq : ((a % b : ℕ) : ℚ) < b := by exact_mod_cast hr
  have hf : ((a % b : ℕ) : ℚ) / b < 1 := (div_lt_one hq).2 hrq
  rw [hx]
  unfold accuracyOfFraction
  split
  · rename_i h0
    simp [h0, Locates, ExtendedMantissa.ofMantissaAndAccuracy]
  · rename_i h0
    have hpos : (0 : ℚ) < (a % b : ℕ) / b := div_pos (by exact_mod_cast Nat.pos_of_ne_zero h0) hq
    cases hc : compare (2 * (a % b)) b with
    | lt =>
      have h : 2 * ((a % b : ℕ) : ℚ) < b := by exact_mod_cast Nat.compare_eq_lt.1 hc
      have : 2 * (((a % b : ℕ) : ℚ) / b) < 1 := by
        rw [← mul_div_assoc]; exact (div_lt_one hq).2 h
      simp only [Locates, ExtendedMantissa.ofMantissaAndAccuracy]
      constructor <;> linarith
    | eq =>
      have h : 2 * ((a % b : ℕ) : ℚ) = b := by exact_mod_cast Nat.compare_eq_eq.1 hc
      have : 2 * (((a % b : ℕ) : ℚ) / b) = 1 := by
        rw [← mul_div_assoc, h]; exact div_self hq.ne'
      simp only [Locates, ExtendedMantissa.ofMantissaAndAccuracy]
      linarith
    | gt =>
      have h : (b : ℚ) < 2 * ((a % b : ℕ) : ℚ) := by exact_mod_cast Nat.compare_eq_gt.1 hc
      have : 1 < 2 * (((a % b : ℕ) : ℚ) / b) := by
        rw [← mul_div_assoc]; exact (one_lt_div hq).2 h
      simp only [Locates, ExtendedMantissa.ofMantissaAndAccuracy]
      constructor <;> linarith

open Shortest Binary

/-- The value is nearer to `m · 2 ^ q` than to the neighbouring floats, or in the middle if `m` is
even. -/
def Within (m : ℕ) (q : ℤ) (v : ℚ) : Prop :=
  quarterBelow m q * 2 ^ (q - 2) ≤ v ∧ v ≤ (4 * m + 2) * 2 ^ (q - 2) ∧
    (m % 2 = 1 → quarterBelow m q * 2 ^ (q - 2) < v ∧ v < (4 * m + 2) * 2 ^ (q - 2))

/-- The exponent to which a value with the leading bit of `n · 2 ^ e` is rounded. -/
theorem targetExponent_eq (n : ℕ) (e : ℤ) :
    Format.binary64.targetExponent (totalExponent n e) = max (n.log2 + e - 52) (-1074) := by
  have h1 : (Format.binary64.mantissaBits : ℤ) = 53 := rfl
  have h2 : Format.binary64.minExponent = -1074 := by decide
  rw [Format.targetExponent, totalExponent, h1, h2]
  congr 1
  ring

theorem two_zpow_lt_iff {a b : ℤ} : (2 : ℚ) ^ a < 2 ^ b ↔ a < b :=
  zpow_lt_zpow_iff_right₀ one_lt_two

theorem quarterBelow_ge (m : ℕ) (q : ℤ) : 4 * m - 2 ≤ quarterBelow m q := by
  unfold quarterBelow
  split <;> omega

/-- The leading bit of a value that is rounded to `m · 2 ^ q`. -/
theorem targetExponent_of_within {n m : ℕ} {e q : ℤ} {x : ℚ} (hn : (n : ℚ) ≤ x) (hx : x < n + 1)
    (hfit : e ≤ -1074 ∨ n ≠ 0) (hc : Canonical m q) (hm : 0 < m)
    (hv : Within m q (x * 2 ^ e)) :
    max ((n.log2 : ℤ) + e - 52) (-1074) = q ∨
      m = 2 ^ 52 ∧ q ≠ -1074 ∧ max ((n.log2 : ℤ) + e - 52) (-1074) = q - 1 ∧
        x * 2 ^ e < 2 ^ (q + 52) := by
  have he : (0 : ℚ) < 2 ^ e := zpow_pos two_pos e
  have hq : (0 : ℚ) < 2 ^ (q - 2) := zpow_pos two_pos _
  have hup : (x * 2 ^ e : ℚ) < 2 ^ (n.log2 + 1 + e : ℤ) := by
    have h : (n : ℚ) + 1 ≤ 2 ^ (n.log2 + 1) := by exact_mod_cast Nat.lt_log2_self (n := n)
    rw [zpow_add₀ two_ne_zero]
    exact mul_lt_mul_of_pos_right (hx.trans_le (by exact_mod_cast h)) he
  have hvu : (x * 2 ^ e : ℚ) < 2 ^ (q + 53) := by
    have h : ((4 * m + 2 : ℕ) : ℚ) < 2 ^ 55 := by
      have : 4 * m + 2 < 2 ^ 55 := by obtain h | h := hc <;> omega
      exact_mod_cast this
    calc (x * 2 ^ e : ℚ) ≤ (4 * m + 2) * 2 ^ (q - 2) := hv.2.1
      _ < 2 ^ 55 * 2 ^ (q - 2) := mul_lt_mul_of_pos_right (by exact_mod_cast h) hq
      _ = 2 ^ (q + 53) := by rw [← zpow_natCast, ← zpow_add₀ two_ne_zero]; congr 1; push_cast; ring
  have hlow : n ≠ 0 → (n.log2 : ℤ) + e - 52 ≤ q := by
    intro h0
    have h : ((2 ^ n.log2 : ℕ) : ℚ) ≤ n := by exact_mod_cast Nat.log2_self_le h0
    have : (2 : ℚ) ^ ((n.log2 : ℤ) + e) ≤ x * 2 ^ e := by
      rw [zpow_add₀ two_ne_zero, zpow_natCast]
      push_cast at h
      exact mul_le_mul_of_nonneg_right (h.trans hn) he.le
    have := two_zpow_lt_iff.1 (this.trans_lt hvu)
    omega
  have hle : max ((n.log2 : ℤ) + e - 52) (-1074) ≤ q := by
    by_cases h0 : n = 0
    · have hl : n.log2 = 0 := by rw [h0]; rfl
      obtain h | h := hc <;> omega
    · have := hlow h0
      obtain h | h := hc <;> omega
  by_cases hmin : q = -1074
  · left; omega
  obtain h | ⟨hml, -, hql, -⟩ := hc
  · exact absurd h.2 hmin
  have hlead : ∀ k : ℕ, 2 ^ k ≤ quarterBelow m q → q - 2 + k < n.log2 + 1 + e := by
    intro k hk
    have : (2 : ℚ) ^ (q - 2 + k) ≤ quarterBelow m q * 2 ^ (q - 2) := by
      rw [zpow_add₀ two_ne_zero, zpow_natCast, mul_comm]
      exact mul_le_mul_of_nonneg_right (by exact_mod_cast hk) hq.le
    exact two_zpow_lt_iff.1 ((this.trans hv.1).trans_lt hup)
  by_cases hp : m = 2 ^ 52
  · have hb := hlead 53 (by rw [quarterBelow, if_pos ⟨hp, hmin⟩, hp]; norm_num)
    by_cases hlt : (n.log2 : ℤ) + e - 52 = q
    · left; omega
    · right
      refine ⟨hp, hmin, by omega, ?_⟩
      have : (n.log2 : ℤ) + 1 + e = q + 52 := by omega
      rwa [← this]
  · have hb := hlead 54 (by have := quarterBelow_ge m q; omega)
    left; omega

theorem shiftToTargetExponent_exact {m : ℕ} {q : ℤ} (h : Canonical m q) :
    shiftToTargetExponent Format.binary64 m q .exact = (⟨m, false, false⟩, q) := by
  have hlog : m.log2 ≤ 52 := by
    by_cases h0 : m = 0
    · simp [h0]
    · have := (Nat.log2_lt (k := 53) h0).2 (by obtain h | h := h <;> omega)
      omega
  have hn : (max ((m.log2 : ℤ) + q - 52) (-1074) - q).toNat = 0 := by obtain h | h := h <;> omega
  rw [shiftToTargetExponent, targetExponent_eq, shiftToExponent, hn]
  simp [HShiftRight.hShiftRight, Nat.repeat, ExtendedMantissa.ofMantissaAndAccuracy]

/-- A significand that was rounded up to one bit more is halved. -/
theorem shiftToTargetExponent_carry {q : ℤ} (h : -1074 < q) :
    shiftToTargetExponent Format.binary64 (2 ^ 53) (q - 1) .exact = (⟨2 ^ 52, false, false⟩, q) := by
  have hn : (max (((2 ^ 53 : ℕ).log2 : ℤ) + (q - 1) - 52) (-1074) - (q - 1)).toNat = 1 := by
    rw [Nat.log2_two_pow]; omega
  rw [shiftToTargetExponent, targetExponent_eq, shiftToExponent, hn]
  simp [HShiftRight.hShiftRight, Nat.repeat, ExtendedMantissa.ofMantissaAndAccuracy,
    ExtendedMantissa.shiftRightOne]

theorem roundWithAccuracy_of_shift {s : Sign} {n r m : ℕ} {e p q : ℤ} {a : Accuracy}
    {em : ExtendedMantissa} (h1 : shiftToTargetExponent Format.binary64 n e a = (em, p))
    (hr : em.roundedMantissa = r)
    (h2 : shiftToTargetExponent Format.binary64 r p .exact = (⟨m, false, false⟩, q)) (hm : 0 < m) :
    roundWithAccuracy Format.binary64 s n e a = .finite s m q hm := by
  subst hr
  rw [roundWithAccuracy, h1]
  simp only [h2, dif_neg hm.ne']

theorem Within.rounded {m : ℕ} {q : ℤ} {v : ℚ} {em : ExtendedMantissa} (h : Within m q v)
    (hl : Locates em (v / 2 ^ q)) : em.roundedMantissa = m := by
  obtain ⟨h1, h2, h3⟩ := h
  have hp : (0 : ℚ) < 2 ^ (q - 2) := zpow_pos two_pos _
  have hq : (2 : ℚ) ^ q = 4 * 2 ^ (q - 2) := by
    rw [show q = 2 + (q - 2) by ring, zpow_add₀ two_ne_zero]
    norm_num
  have hb : (4 * m - 2 : ℚ) ≤ quarterBelow m q := by
    have : 4 * m ≤ quarterBelow m q + 2 := by have := quarterBelow_ge m q; omega
    have : (4 * m : ℚ) ≤ quarterBelow m q + 2 := by exact_mod_cast this
    linarith
  have hbp := mul_le_mul_of_nonneg_right hb hp.le
  have hv : 2 * (v / 2 ^ q) * (2 * 2 ^ (q - 2)) = v := by
    rw [hq]
    field_simp
    ring
  rw [hq] at hl hv
  generalize (2 : ℚ) ^ (q - 2) = p at *
  generalize v / (4 * p) = y at *
  apply hl.rounded
  · by_contra! hy
    have := mul_lt_mul_of_pos_right hy hp
    linarith
  · by_contra! hy
    have := mul_lt_mul_of_pos_right hy hp
    linarith
  · intro hodd
    obtain ⟨h4, h5⟩ := h3 hodd
    constructor
    · by_contra! hy
      have := mul_le_mul_of_nonneg_right hy hp.le
      linarith
    · by_contra! hy
      have := mul_le_mul_of_nonneg_right hy hp.le
      linarith

/-- Just below a power of two the exponent is one less, and the value is rounded up to the power. -/
theorem Within.rounded_carry {q : ℤ} {v : ℚ} {em : ExtendedMantissa} (h : Within (2 ^ 52) q v)
    (hq : q ≠ -1074) (hv : v < 2 ^ (q + 52)) (hl : Locates em (v / 2 ^ (q - 1))) :
    em.roundedMantissa = 2 ^ 53 := by
  have hp : (0 : ℚ) < 2 ^ (q - 1) := zpow_pos two_pos _
  have hb : quarterBelow (2 ^ 52) q = 2 ^ 54 - 1 := by rw [quarterBelow, if_pos ⟨rfl, hq⟩]; norm_num
  have hlow : (2 ^ 54 - 1) * 2 ^ (q - 2) ≤ v := by
    have := h.1
    rw [hb] at this
    exact_mod_cast this
  have h1 : (2 : ℚ) ^ (q - 1) = 2 * 2 ^ (q - 2) := by
    rw [show q - 1 = 1 + (q - 2) by ring, zpow_add₀ two_ne_zero]
    norm_num
  have h2 : (2 : ℚ) ^ (q + 52) = 2 ^ 53 * 2 ^ (q - 1) := by
    rw [show q + 52 = 53 + (q - 1) by ring, zpow_add₀ two_ne_zero]
    norm_num
  have hy : v / 2 ^ (q - 1) < 2 ^ 53 := by rwa [div_lt_iff₀ hp, ← h2]
  have hz : (2 ^ 54 - 1) / 2 ≤ v / 2 ^ (q - 1) := by
    rw [le_div_iff₀ hp, h1]
    linarith
  apply hl.rounded
  · push_cast; linarith
  · push_cast; linarith
  · intro hodd
    norm_num at hodd

/-- Rounding finds the float that a value is nearest to. -/
theorem roundWithAccuracy_eq {s : Sign} {n m : ℕ} {e q : ℤ} {a : Accuracy} {x : ℚ}
    (hl : Locates (.ofMantissaAndAccuracy n a) x) (hfit : e ≤ -1074 ∨ 2 ^ 52 ≤ n)
    (hc : Canonical m q) (hm : 0 < m) (hv : Within m q (x * 2 ^ e)) :
    roundWithAccuracy Format.binary64 s n e a = .finite s m q hm := by
  have hn : (ExtendedMantissa.ofMantissaAndAccuracy n a).mantissa = n := by
    obtain _ | o := a
    · rfl
    · cases o <;> rfl
  have hle := hl.le
  have hlt := hl.lt
  rw [hn] at hle hlt
  have hcase := targetExponent_of_within hle hlt (by omega) hc hm hv
  have hge : e ≤ max ((n.log2 : ℤ) + e - 52) (-1074) := by
    obtain h | h := hfit
    · omega
    · have := (Nat.le_log2 (k := 52) (by omega)).2 h
      omega
  generalize hT : max ((n.log2 : ℤ) + e - 52) (-1074) = T at *
  have hsh := hl.shiftRight (T - e).toNat
  have hx : x / 2 ^ (T - e).toNat = x * 2 ^ e / 2 ^ T := by
    have h2 : (2 : ℚ) ^ T = 2 ^ e * 2 ^ (T - e).toNat := by
      rw [← zpow_natCast, ← zpow_add₀ two_ne_zero]
      congr 1
      omega
    have := zpow_ne_zero e (two_ne_zero (α := ℚ))
    rw [h2]
    field_simp
  rw [hx] at hsh
  have hfirst : shiftToTargetExponent Format.binary64 n e a =
      (ExtendedMantissa.ofMantissaAndAccuracy n a >>> (T - e).toNat, T) := by
    rw [shiftToTargetExponent, targetExponent_eq, hT, shiftToExponent]
    exact Prod.ext rfl (by simp only; omega)
  obtain rfl | ⟨rfl, hmin, rfl, hvu⟩ := hcase
  · exact roundWithAccuracy_of_shift hfirst (hv.rounded hsh) (shiftToTargetExponent_exact hc) hm
  · have hq : -1074 < q := by obtain h | h := hc <;> omega
    exact roundWithAccuracy_of_shift hfirst (hv.rounded_carry hmin hvu hsh)
      (shiftToTargetExponent_carry hq) hm

end Rounding

end Rewards.Decimal
