import Mathlib.Tactic.Ring
import Rewards.Failure
import Rewards.Text.Blank

/-! Digits of numbers: a numeral reads back to its number, and its length tells how large that is. -/

namespace Rewards.Text

theorem digit?_of_isAsciiDigit {c : Char} (h : isAsciiDigit c) : digit? c = some (c.toNat - 48) := by
  simp only [isAsciiDigit, Bool.and_eq_true, decide_eq_true_eq] at h
  have h1 : 48 ≤ c.toNat := h.1
  have h2 : c.toNat ≤ 57 := h.2
  rw [digit?, decimalZeros, List.find?_cons_of_pos (by simp; omega)]
  rfl

theorem isDigit_of_isAsciiDigit {c : Char} (h : isAsciiDigit c) : isDigit c := by
  rw [isDigit, digit?_of_isAsciiDigit h, Option.isSome_some]

theorem isBlank_of_isAsciiDigit {c : Char} (h : isAsciiDigit c) : isBlank c = false := by
  simp only [isAsciiDigit, Bool.and_eq_true, decide_eq_true_eq] at h
  have h1 : 48 ≤ c.toNat := h.1
  have h2 : c.toNat ≤ 57 := h.2
  rw [Bool.eq_false_iff]
  intro hb
  simp only [isBlank, inRanges, List.any_cons, List.any_nil, Bool.or_eq_true, Bool.and_eq_true,
    decide_eq_true_eq, Bool.false_eq_true, or_false] at hb
  omega

theorem isAsciiDigit_digitChar {d : Nat} (h : d < 10) : isAsciiDigit d.digitChar := by
  revert d
  decide

theorem digit?_digitChar {d : Nat} (h : d < 10) : digit? d.digitChar = some d := by
  rw [digit?_of_isAsciiDigit (isAsciiDigit_digitChar h)]
  revert d
  decide

theorem number_append (s t : Text) : number (s ++ t) = number s * 10 ^ t.length + number t := by
  have h : ∀ (a b : Nat) (t : Text), t.foldl (fun n c => 10 * n + (digit? c).getD 0) (a + b) =
      a * 10 ^ t.length + t.foldl (fun n c => 10 * n + (digit? c).getD 0) b := by
    intro a b t
    induction t generalizing a b with
    | nil => simp
    | cons c t ih =>
      rw [List.foldl_cons, List.foldl_cons, List.length_cons,
        show 10 * (a + b) + (digit? c).getD 0 = 10 * a + (10 * b + (digit? c).getD 0) by ring, ih]
      ring
  rw [number, List.foldl_append]
  exact h (number s) 0 t

theorem number_lt (s : Text) : number s < 10 ^ s.length := by
  have h : ∀ (t : Text) (n : Nat), t.foldl (fun n c => 10 * n + (digit? c).getD 0) n <
      (n + 1) * 10 ^ t.length := by
    intro t
    induction t with
    | nil => intro n; simp
    | cons c t ih =>
      intro n
      have hd : (digit? c).getD 0 < 10 := by
        cases hc : digit? c with
        | none => decide
        | some d => exact digit?_lt hc
      rw [List.foldl_cons, List.length_cons]
      refine (ih _).trans_le ?_
      rw [pow_succ', ← mul_assoc]
      exact Nat.mul_le_mul_right _ (by omega)
  have := h s 0
  rwa [zero_add, one_mul] at this

theorem numeral_eq (n : Nat) :
    numeral n = if n < 10 then [n.digitChar] else numeral (n / 10) ++ [(n % 10).digitChar] :=
  Nat.toDigits_eq_if (by decide)

@[simp] theorem number_numeral (n : Nat) : number (numeral n) = n := by
  induction n using Nat.strong_induction_on with
  | _ n ih =>
    rw [numeral_eq]
    split
    · rename_i h
      simp [number, digit?_digitChar h]
    · rename_i h
      have hd : number [(n % 10).digitChar] = n % 10 := by
        simp [number, digit?_digitChar (Nat.mod_lt n (by decide))]
      rw [number_append, ih (n / 10) (by omega), hd, List.length_singleton, pow_one]
      omega

theorem isAsciiDigit_of_mem_numeral {n : Nat} {c : Char} (h : c ∈ numeral n) : isAsciiDigit c := by
  have := Nat.isDigit_of_mem_toDigits (by decide) (by decide) h
  simpa [Char.isDigit, isAsciiDigit, Char.le_def, UInt32.le_iff_toNat_le] using this

theorem isDigit_of_mem_numeral {n : Nat} {c : Char} (h : c ∈ numeral n) : isDigit c :=
  isDigit_of_isAsciiDigit (isAsciiDigit_of_mem_numeral h)

theorem numeral_ne_nil (n : Nat) : numeral n ≠ [] := Nat.toDigits_ne_nil

theorem length_numeral_le_iff {n k : Nat} (hk : 0 < k) : (numeral n).length ≤ k ↔ n < 10 ^ k :=
  Nat.length_toDigits_le_iff (by decide) hk

theorem pow_length_numeral_le {n : Nat} (hn : 0 < n) : 10 ^ ((numeral n).length - 1) ≤ n := by
  by_contra! h
  by_cases h1 : (numeral n).length ≤ 1
  · rw [show (numeral n).length - 1 = 0 by omega] at h
    omega
  · have := (length_numeral_le_iff (k := (numeral n).length - 1) (by omega)).2 h
    omega

theorem lt_pow_length_numeral (n : Nat) : n < 10 ^ (numeral n).length :=
  (length_numeral_le_iff (List.length_pos_iff.2 (numeral_ne_nil n))).1 le_rfl

/-- The integer has so few digits that it can be written and read. -/
def IsShort (n : Int) : Prop := (numeral n.natAbs).length ≤ maxDigits

instance (n : Int) : Decidable (IsShort n) := inferInstanceAs (Decidable (_ ≤ _))

theorem written_of_isShort {n : Int} (h : IsShort n) : written n = .ok (integer n) :=
  if_neg (Nat.not_lt.2 h)

theorem written_of_not {n : Int} (h : ¬IsShort n) : written n = .error .longNumber :=
  if_pos (Nat.not_le.1 h)

theorem isShort_of_written {n : Int} {s : Text} (h : written n = .ok s) : IsShort n := by
  by_contra hn
  rw [written_of_not hn] at h
  cases h

theorem natural_numeral {n : Nat} (h : IsShort n) : natural (numeral n) = .ok n := by
  rw [IsShort, Int.natAbs_natCast] at h
  rw [natural, if_neg (Nat.not_lt.2 h), number_numeral]

theorem integer_natCast (n : Nat) : integer n = numeral n := by
  rw [integer, if_neg (by omega), Int.natAbs_natCast]

end Rewards.Text
