import Mathlib.Algebra.BigOperators.Group.List.Basic
import Rewards.Proofs.Effect.Duration

/-!
Lengths as sums. Numbers with units are read as what they add up to, in whatever order they stand, and
every length that can be written is read back.
-/

namespace Rewards.Duration

open Text

inductive TimeUnit where
  | second | minute | hour
  deriving DecidableEq, Repr

namespace TimeUnit

def seconds : TimeUnit → ℕ
  | second => 1
  | minute => 60
  | hour => 3600

def letter : TimeUnit → Char
  | second => 's'
  | minute => 'm'
  | hour => 'h'

/-- The letter in upper or lower case. -/
def letterIn (upper : Bool) (u : TimeUnit) : Char := if upper then u.letter.toUpper else u.letter

theorem letterIn_mem (upper : Bool) (u : TimeUnit) : u.letterIn upper ∈ unitLetters := by
  cases upper <;> cases u <;> decide

theorem unitSeconds?_letterIn (upper : Bool) (u : TimeUnit) :
    unitSeconds? (u.letterIn upper) = some u.seconds := by
  cases upper <;> cases u <;> rfl

end TimeUnit

/-- A number in ASCII digits, which may start with zeros, and a unit by its letter in either case. -/
structure Term where
  digits : Text
  unit : TimeUnit
  upper : Bool
  ne_nil : digits ≠ []
  isAsciiDigit : ∀ c ∈ digits, Text.isAsciiDigit c
  short : digits.length ≤ maxDigits

namespace Term

def text (x : Term) : Text := x.digits ++ [x.unit.letterIn x.upper]

def seconds (x : Term) : ℕ := number x.digits * x.unit.seconds

def textOf (xs : List Term) : Text := xs.flatMap text

def total (xs : List Term) : ℕ := (xs.map seconds).sum

def pair (x : Term) : Pair := (x.digits, x.unit.letterIn x.upper)

theorem isValid_pair (x : Term) : x.pair.IsValid where
  ne_nil := x.ne_nil
  digits := x.isAsciiDigit
  short := x.short
  unit := TimeUnit.letterIn_mem x.upper x.unit

theorem seconds_pair (x : Term) : x.pair.seconds = x.seconds := by
  rw [Pair.seconds, pair, TimeUnit.unitSeconds?_letterIn]
  rfl

theorem textOf_eq (xs : List Term) : textOf xs = (xs.map pair).flatMap Pair.text := by
  rw [List.flatMap_map]
  rfl

theorem total_eq (xs : List Term) : total xs = ((xs.map pair).map Pair.seconds).sum := by
  rw [List.map_map, total, ← List.map_congr_left fun x _ => seconds_pair x]
  rfl

theorem textOf_append (xs ys : List Term) : textOf (xs ++ ys) = textOf xs ++ textOf ys :=
  List.flatMap_append

theorem total_append (xs ys : List Term) : total (xs ++ ys) = total xs + total ys := by
  rw [total, List.map_append, List.sum_append]
  rfl

theorem total_perm {xs ys : List Term} (h : xs.Perm ys) : total xs = total ys :=
  (h.map seconds).sum_eq

end Term

open Term

/-- The ticks of the length that a text tells. -/
def ticksOf (t : Text) : Except Failure ℕ := (Duration.read (some t)).map ticks

theorem ticksOf_textOf {xs : List Term} (h : 0 < total xs) :
    ticksOf (textOf xs) = .ok (20 * total xs) := by
  have hne : xs.map pair ≠ [] := by
    intro hnil
    rw [total_eq, hnil] at h
    exact lt_irrefl 0 h
  have hvalid : ∀ p ∈ xs.map pair, p.IsValid := List.forall_mem_map.2 fun x _ => x.isValid_pair
  rw [total_eq] at h
  rw [ticksOf, textOf_eq, Pair.read_texts hne hvalid, dif_pos h, total_eq]
  exact congrArg Except.ok (Nat.mul_comm _ 20)

theorem ticksOf_formatTicks {t : ℕ} (hpos : 0 < t) (hdvd : 20 ∣ t)
    (hshort : IsShort (t / 72000 : ℕ)) :
    ∃ s, formatTicks t = .ok s ∧ ticksOf s = .ok t := by
  obtain ⟨n, rfl⟩ := hdvd
  have hn : 0 < n := by omega
  have hhours : 20 * n / 72000 = n / 3600 := by omega
  rw [hhours] at hshort
  refine ⟨(counts n).flatMap Count.text, ?_, ?_⟩
  · have hf := formatTicks_eq hn
    rw [if_pos hshort, ticksPerSecond, Nat.mul_comm] at hf
    exact hf
  · rw [ticksOf, read_text hn hshort]
    exact congrArg Except.ok (Nat.mul_comm n 20)

/-- Lengths add up. Numbers with units, in any order and with any unit more than once, are read as the sum
of their seconds, unless that is zero; so texts of them that are put together are read as the sum of the
two, and the order makes no difference. Every positive number of whole seconds whose hours have not too
many digits is written as a text that is read as the same number. -/
theorem lengths_add_up :
    (∀ xs, 0 < total xs → ticksOf (textOf xs) = .ok (20 * total xs) ∧
      (∀ ys, 0 < total ys → ∃ m n, ticksOf (textOf xs) = .ok m ∧ ticksOf (textOf ys) = .ok n ∧
        ticksOf (textOf xs ++ textOf ys) = .ok (m + n)) ∧
      ∀ ys, ys.Perm xs → ticksOf (textOf ys) = ticksOf (textOf xs)) ∧
    ∀ t : ℕ, 0 < t → 20 ∣ t → IsShort (t / 72000 : ℕ) →
      ∃ s, formatTicks t = .ok s ∧ ticksOf s = .ok t := by
  refine ⟨fun xs hx => ⟨ticksOf_textOf hx, fun ys hy => ?_, fun ys hp => ?_⟩,
    fun t => ticksOf_formatTicks⟩
  · refine ⟨_, _, ticksOf_textOf hx, ticksOf_textOf hy, ?_⟩
    have hsum : 0 < total (xs ++ ys) := by
      rw [total_append]
      exact Nat.add_pos_left hx _
    rw [← textOf_append, ticksOf_textOf hsum, total_append, Nat.mul_add]
  · rw [ticksOf_textOf hx, ticksOf_textOf (total_perm hp ▸ hx), total_perm hp]

/-- Both letters of one unit, zeros in front, and whole hours. -/
theorem lengths_add_up_hours :
    let xs : List Term := [⟨"0030", .second, true, by decide, by decide, by decide⟩,
      ⟨"1", .hour, false, by decide, by decide, by decide⟩,
      ⟨"2", .second, false, by decide, by decide, by decide⟩]
    textOf xs = "0030S1h2s".toList ∧ 0 < total xs ∧ ticksOf "0030S1h2s" = .ok 72640 ∧
      ticksOf "2s1h0030S" = .ok 72640 ∧ ticksOf "0030S1h2s0030S1h2s" = .ok 145280 ∧
      ∃ s, formatTicks 144000 = .ok s ∧ ticksOf s = .ok 144000 := by
  intro xs
  have htotal : total xs = 3632 := by decide
  have hpos : 0 < total xs := by rw [htotal]; decide
  obtain ⟨hterms, hformat⟩ := lengths_add_up
  obtain ⟨hsum, htwice, hperm⟩ := hterms xs hpos
  have hrev := (hperm xs.reverse (List.reverse_perm xs)).trans hsum
  obtain ⟨m, n, hm, hn, hmn⟩ := htwice xs hpos
  cases hm.symm.trans hsum
  cases hn.symm.trans hsum
  rw [htotal] at hsum hrev hmn
  exact ⟨rfl, hpos, hsum, hrev, hmn, hformat 144000 (by decide) (by decide) (by decide)⟩

end Rewards.Duration
