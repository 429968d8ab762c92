import Mathlib
import Rewards.Proofs.Decimal.Rounding
import Rewards.Proofs.Text.Numeral

/-!
The shortest digits of a float lie next to it: a point of a grid that passes the test does, and
one of the first seventeen grids has such a point.
-/

namespace Rewards.Decimal

open Text Rounding Binary

namespace Shortest

theorem den_pos (q p : ℤ) : 0 < (scale q p).den :=
  Nat.mul_pos (Nat.pow_pos (by norm_num)) (Nat.pow_pos (by norm_num))

theorem num_pos (q p : ℤ) : 0 < (scale q p).num :=
  Nat.mul_pos (Nat.pow_pos (by norm_num)) (Nat.pow_pos (by norm_num))

/-- On a scale, the quarter unit and the grid step are whole multiples of one value. -/
theorem exists_unit (q p : ℤ) : ∃ u : ℚ, 0 < u ∧ (2 : ℚ) ^ (q - 2) = (scale q p).num * u ∧
    (10 : ℚ) ^ p = (scale q p).den * u := by
  have hn : (0 : ℚ) < (scale q p).num := by exact_mod_cast num_pos q p
  have h2 : (2 : ℚ) ^ (q - 2) * 2 ^ (2 - q).toNat = 2 ^ (q - 2).toNat := by
    rw [← zpow_natCast, ← zpow_natCast, ← zpow_add₀ two_ne_zero]
    congr 1
    omega
  have h10 : (10 : ℚ) ^ p * 10 ^ (-p).toNat = 10 ^ p.toNat := by
    rw [← zpow_natCast, ← zpow_natCast, ← zpow_add₀ (by norm_num)]
    congr 1
    omega
  refine ⟨2 ^ (q - 2) / (scale q p).num, div_pos (zpow_pos two_pos _) hn, ?_, ?_⟩
  · rw [mul_div_cancel₀ _ hn.ne']
  · rw [mul_div_assoc', eq_div_iff hn.ne']
    simp only [scale]
    push_cast
    rw [← h2, ← h10]
    ring

/-- A point of a grid that passes the test lies next to the float. -/
theorem within_of_readsBack {m d : ℕ} {q p : ℤ} (h : readsBack m q (scale q p) d) :
    Within m q (d * 10 ^ p) := by
  obtain ⟨u, hu, h2, h10⟩ := exists_unit q p
  simp only [readsBack] at h
  rw [Within, h2, h10, ← mul_assoc, ← mul_assoc, ← mul_assoc]
  simp only [mul_le_mul_iff_left₀ hu, mul_lt_mul_iff_left₀ hu]
  split at h <;> simp only [Bool.and_eq_true, decide_eq_true_eq] at h <;> rename_i hm
  · exact ⟨by exact_mod_cast h.1, by exact_mod_cast h.2, by omega⟩
  · exact ⟨by exact_mod_cast h.1.le, by exact_mod_cast h.2.le, fun _ => by exact_mod_cast h⟩

theorem readsBack_of_onGrid? {m d : ℕ} {q p : ℤ} (h : onGrid? m q p = some d) :
    readsBack m q (scale q p) d := by
  simp only [onGrid?] at h
  split at h
  · cases h
  · cases h
    assumption
  · cases h
    assumption
  · cases h
    split <;> assumption

theorem readsBack_of_lt {m d : ℕ} {q : ℤ} {s : Scale} (hl : quarterBelow m q * s.num < d * s.den)
    (hr : d * s.den < (4 * m + 2) * s.num) : readsBack m q s d := by
  simp only [readsBack]
  split <;> simp only [Bool.and_eq_true, decide_eq_true_eq]
  · exact ⟨hl.le, hr.le⟩
  · exact ⟨hl, hr⟩

/-- A grid whose step is shorter than the interval has a point in it, and one of the two points
around the value is such a point. -/
theorem onGrid?_isSome {m : ℕ} {q p : ℤ}
    (h : (scale q p).den + quarterBelow m q * (scale q p).num < (4 * m + 2) * (scale q p).num) :
    (onGrid? m q p).isSome := by
  have hd := den_pos q p
  have hn := num_pos q p
  generalize hs : scale q p = s at *
  have hfloor : 4 * m * s.num / s.den * s.den ≤ 4 * m * s.num := Nat.div_mul_le_self _ _
  have hceil : 4 * m * s.num < (4 * m * s.num / s.den + 1) * s.den :=
    Nat.lt_mul_of_div_lt (Nat.lt_succ_self _) hd
  have hbelow : quarterBelow m q * s.num ≤ 4 * m * s.num :=
    Nat.mul_le_mul_right _ (by unfold quarterBelow; split <;> omega)
  have habove : 4 * m * s.num < (4 * m + 2) * s.num :=
    Nat.mul_lt_mul_of_pos_right (by omega) hn
  have hor : readsBack m q s (4 * m * s.num / s.den) ∨
      readsBack m q s (4 * m * s.num / s.den + 1) := by
    by_cases hlow : quarterBelow m q * s.num < 4 * m * s.num / s.den * s.den
    · exact .inl (readsBack_of_lt hlow (by omega))
    · refine .inr (readsBack_of_lt (by omega) ?_)
      rw [Nat.add_mul, one_mul]
      omega
  simp only [onGrid?, hs]
  split
  · rename_i h1 h2
    simp [h1, h2] at hor
  all_goals rfl

theorem takeWhile_range {n : ℕ} {p : ℕ → Bool} (h : ∃ j < n, p j = false) :
    p ((List.range n).takeWhile p).length = false := by
  obtain ⟨j, hj, hp⟩ := h
  have hx : (List.range n).findIdx (fun a => !p a) < (List.range n).length :=
    List.findIdx_lt_length_of_exists ⟨j, by simpa using hj, by simp [hp]⟩
  have hf := List.findIdx_getElem (w := hx)
  rw [List.getElem_range] at hf
  rw [List.takeWhile_eq_take_findIdx_not, List.length_take, Nat.min_eq_left hx.le]
  simpa using hf

/-- The value has no digit before its first place. -/
theorem pow_places_le {m : ℕ} {q : ℤ} (hm : 0 < m) (hq : -1074 ≤ q) :
    (10 : ℚ) ^ (places m q - 1) ≤ m * 2 ^ q := by
  have hv : (m * 2 ^ q : ℚ) * (2 ^ (-q).toNat : ℕ) = (m * 2 ^ q.toNat : ℕ) := by
    have : (2 : ℚ) ^ q * 2 ^ (-q).toNat = 2 ^ q.toNat := by
      rw [← zpow_natCast, ← zpow_natCast, ← zpow_add₀ two_ne_zero]
      congr 1
      omega
    push_cast
    rw [mul_assoc, this]
  have hden : (0 : ℚ) < (2 ^ (-q).toNat : ℕ) := by positivity
  have hden0 : 0 < 2 ^ (-q).toNat := Nat.pow_pos (by norm_num)
  have hnum : 0 < m * 2 ^ q.toNat := Nat.mul_pos hm (Nat.pow_pos (by norm_num))
  have hle : 2 ^ (-q).toNat ≤ 10 ^ (399 + 1) := by
    have h1 : (-q).toNat ≤ 1074 := by omega
    have h2 : 2 ^ 1074 ≤ 10 ^ (399 + 1) := by decide +kernel
    exact (pow_le_pow_right₀ one_le_two h1).trans h2
  simp only [places]
  generalize m * 2 ^ q.toNat = num at *
  generalize 2 ^ (-q).toNat = den at *
  rw [← mul_le_mul_iff_left₀ hden, hv]
  split
  · rename_i h
    have hpos : 0 < num / den := Nat.div_pos h hden0
    have h1 := pow_length_numeral_le hpos
    have h2 : 10 ^ ((numeral (num / den)).length - 1) * den ≤ num :=
      (Nat.mul_le_mul_right _ h1).trans (Nat.div_mul_le_self _ _)
    have hl := List.length_pos_iff.2 (numeral_ne_nil (num / den))
    change (10 : ℚ) ^ (((numeral (num / den)).length : ℤ) - 1) * den ≤ num
    rw [show ((numeral (num / den)).length : ℤ) - 1 = ((numeral (num / den)).length - 1 : ℕ) by omega,
      zpow_natCast]
    exact_mod_cast h2
  · rename_i h
    have hlast : ¬num * 10 ^ (399 + 1) < den :=
      not_lt.2 (hle.trans (Nat.le_mul_of_pos_left _ hnum))
    have hc := takeWhile_range (n := 400) (p := fun j => num * 10 ^ (j + 1) < den)
      ⟨399, by omega, decide_eq_false hlast⟩
    generalize ((List.range 400).takeWhile fun j => num * 10 ^ (j + 1) < den).length = c at *
    simp only [decide_eq_false_iff_not, not_lt] at hc
    have h10 : (10 : ℚ) ^ (Int.negOfNat c - 1) * 10 ^ (c + 1) = 1 := by
      rw [← zpow_natCast, ← zpow_add₀ (by norm_num), Int.negOfNat_eq,
        show (-(Int.ofNat c) - 1 + (c + 1 : ℕ) : ℤ) = 0 by push_cast; simp, zpow_zero]
    have hp : (0 : ℚ) < 10 ^ (c + 1) := by positivity
    have hcq : (den : ℚ) ≤ num * 10 ^ (c + 1) := by exact_mod_cast hc
    refine le_of_mul_le_mul_right ?_ hp
    rw [mul_right_comm, h10, one_mul]
    exact hcq

theorem value_stripZeros (d : Digits) (n : ℕ) :
    ((stripZeros d n).digits : ℚ) * 10 ^ (stripZeros d n).exponent = d.digits * 10 ^ d.exponent := by
  induction n generalizing d with
  | zero => rfl
  | succ n ih =>
    rw [stripZeros]
    split
    · rename_i h
      have hd : (d.digits : ℚ) = (d.digits / 10 : ℕ) * 10 := by
        exact_mod_cast (Nat.div_mul_cancel (Nat.dvd_of_mod_eq_zero h.1)).symm
      rw [ih, zpow_add₀ (by norm_num), zpow_one, hd]
      simp only
      ring
    · rfl

/-- Seventeen digits suffice. -/
theorem onGrid?_seventeen {m : ℕ} {q : ℤ} (hc : Canonical m q) (hm : 0 < m) :
    (onGrid? m q (places m q - 17)).isSome := by
  have hq : -1074 ≤ q := by obtain h | h := hc <;> omega
  have hv := pow_places_le hm hq
  obtain ⟨u, hu, h2, h10⟩ := exists_unit q (places m q - 17)
  have hstep : (10 : ℚ) ^ (places m q - 1) = 10 ^ (places m q - 17) * 10 ^ 16 := by
    rw [show places m q - 1 = places m q - 17 + (16 : ℕ) by push_cast; ring,
      zpow_add₀ (by norm_num), zpow_natCast]
  have hquarter : (2 : ℚ) ^ q = 4 * 2 ^ (q - 2) := by
    rw [show q = 2 + (q - 2) by ring, zpow_add₀ two_ne_zero]
    norm_num
  apply onGrid?_isSome
  rw [hstep, hquarter, h2, h10] at hv
  generalize (scale q (places m q - 17)).den = den at *
  generalize (scale q (places m q - 17)).num = num at *
  have hmul : den * 10 ^ 16 ≤ 4 * m * num := by
    have : ((den * 10 ^ 16 : ℕ) : ℚ) ≤ (4 * m * num : ℕ) := by
      refine le_of_mul_le_mul_right ?_ hu
      push_cast
      linarith
    exact_mod_cast this
  have hn : 0 < num := by
    by_contra! h0
    obtain rfl : num = 0 := by omega
    rw [Nat.cast_zero, zero_mul] at h2
    exact (zpow_pos (two_pos (α := ℚ)) (q - 2)).ne' h2
  have hm53 : m < 2 ^ 53 := by obtain h | h := hc <;> omega
  by_cases hp : m = 2 ^ 52 ∧ q ≠ -1074
  · rw [quarterBelow, if_pos hp, hp.1]
    rw [hp.1] at hmul
    omega
  · have hle : 4 * m * num ≤ 4 * 2 ^ 53 * num := Nat.mul_le_mul_right _ (by omega)
    rw [quarterBelow, if_neg hp, show 4 * m + 2 = 4 * m - 2 + 4 by omega, Nat.add_mul]
    omega

end Shortest

open Shortest

/-- The shortest digits of a float lie next to it. -/
theorem within_shortest {m : ℕ} {q : ℤ} (hc : Canonical m q) (hm : 0 < m) :
    Within m q ((shortest m q).digits * 10 ^ (shortest m q).exponent) := by
  have hsome : ((List.range 17).findSome? fun (k : ℕ) =>
      (onGrid? m q (places m q - ((k : ℤ) + 1))).map fun d =>
        stripZeros ⟨d, places m q - ((k : ℤ) + 1)⟩ 20).isSome := by
    rw [List.findSome?_isSome_iff]
    refine ⟨16, by simp, ?_⟩
    rw [Option.isSome_map]
    exact onGrid?_seventeen hc hm
  obtain ⟨hit, hhit⟩ := Option.isSome_iff_exists.1 hsome
  obtain ⟨k, -, hk⟩ := List.exists_of_findSome?_eq_some hhit
  obtain ⟨d, hd, rfl⟩ := Option.map_eq_some_iff.1 hk
  have hs : shortest m q = stripZeros ⟨d, places m q - (k + 1)⟩ 20 := by
    rw [shortest]
    simp only [hhit, Option.getD_some]
  rw [hs, value_stripZeros]
  exact within_of_readsBack (readsBack_of_onGrid? hd)

end Rewards.Decimal
