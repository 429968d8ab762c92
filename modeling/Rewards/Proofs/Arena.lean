import Mathlib.Algebra.Order.Group.Unbundled.Int
import Mathlib.Data.List.Nodup
import Mathlib.Tactic.Common
import Rewards.Proofs.Load.Lenient

/-!
How often the rewards of an arena are due while its waves are reached one after another. Those of an
interval are due once in every so many waves, those of a wave once.
-/

namespace Rewards.Arena

/-- A list of rewards in the tables of an arena. -/
inductive Source where
  | every (interval : ℤ)
  | after (wave : ℤ)
  deriving DecidableEq

/-- Intervals come before waves, and shorter ones before longer ones. -/
def Source.Before : Source → Source → Prop
  | every i, every k => i < k
  | every _, after _ => True
  | after _, _ => False

theorem Source.Before.ne {s t : Source} (h : s.Before t) : s ≠ t := by
  rintro rfl
  cases s with
  | every i => exact lt_irrefl i h
  | after w => exact h

variable (a : Arena)

def rewardsOf : Source → List Grantable
  | .every i => (a.every.lookup i).getD []
  | .after w => (a.after.lookup w).getD []

/-- The entries whose interval ends with a wave, by its length. -/
def ending (wave : ℤ) : List (ℤ × List Grantable) :=
  (a.every.mergeSort fun x y => x.1 ≤ y.1).filter fun e => 1 ≤ e.1 && wave % e.1 == 0

/-- The lists that are due for a wave, in order. -/
def due (wave : ℤ) : List Source :=
  if wave < 1 then []
  else (a.ending wave).map (.every ·.1) ++ if wave ∈ a.after.map (·.1) then [.after wave] else []

/-- The lists that are due for the first waves, one wave after another. -/
def dueUpTo (n : ℕ) : List Source := (List.range' 1 n).flatMap fun w : ℕ => a.due w

/-- No interval and no wave has two entries. -/
structure Distinct : Prop where
  every : (a.every.map (·.1)).Nodup
  after : (a.after.map (·.1)).Nodup

variable {a}

section Loaded

open Loading

variable {read : Text → Except Failure Grantable}

theorem distinct_loaded {t : ArenaTemplate} (he : Schema.Distinct t.every)
    (ha : Schema.Distinct t.after) : (t.loaded read).Distinct := by
  have htable : ∀ {table : WaveTexts}, Schema.Distinct table →
      ((entriesOf read (byWave table)).map (·.1)).Nodup := by
    intro table h
    rw [entriesOf, List.map_map]
    exact (byWave_ascending h).2.imp ne_of_lt
  exact ⟨htable he, htable ha⟩

/-- The arenas of a file have distinct tables. -/
theorem distinct_of_rewards {strict : Bool} {v : Value} {as : List Arena} {j j' : Journal}
    (h : (rewards read strict v).run j = (.ok as, j')) : ∀ a ∈ as, a.Distinct := by
  obtain ⟨ts, hts, rfl, -⟩ := exists_of_rewards read h
  rw [List.forall_mem_map]
  intro t ht
  have hdistinct := Schema.distinct_of_checkFile hts t (mem_of_mem_firsts ht)
  exact distinct_loaded hdistinct.1 hdistinct.2

end Loaded

theorem mem_due_every {w i : ℤ} :
    Source.every i ∈ a.due w ↔ 1 ≤ w ∧ i ∈ a.every.map (·.1) ∧ 1 ≤ i ∧ i ∣ w := by
  have hending : Source.every i ∈ (a.ending w).map (.every ·.1) ↔
      i ∈ a.every.map (·.1) ∧ 1 ≤ i ∧ i ∣ w := by
    simp only [ending, List.mem_map, List.mem_filter, List.mem_mergeSort, Bool.and_eq_true,
      decide_eq_true_eq, beq_iff_eq, Source.every.injEq, Int.dvd_iff_emod_eq_zero]
    constructor
    · rintro ⟨e, ⟨he, hi, hd⟩, rfl⟩
      exact ⟨⟨e, he, rfl⟩, hi, hd⟩
    · rintro ⟨⟨e, he, rfl⟩, hi, hd⟩
      exact ⟨e, ⟨he, hi, hd⟩, rfl⟩
  have hafter : Source.every i ∉ if w ∈ a.after.map (·.1) then [Source.after w] else [] := by
    split <;> simp
  unfold due
  split
  · rename_i hw
    simp only [List.not_mem_nil, false_iff, not_and]
    omega
  · rename_i hw
    rw [List.mem_append, hending, or_iff_left hafter]
    exact (and_iff_right (Int.not_lt.1 hw)).symm

theorem mem_due_after {w v : ℤ} :
    Source.after v ∈ a.due w ↔ 1 ≤ w ∧ v ∈ a.after.map (·.1) ∧ v = w := by
  have hending : Source.after v ∉ (a.ending w).map (.every ·.1) := by simp
  unfold due
  split
  · rename_i hw
    simp only [List.not_mem_nil, false_iff, not_and]
    omega
  · rename_i hw
    rw [List.mem_append, or_iff_right hending, and_iff_right (Int.not_lt.1 hw)]
    split
    · rename_i hm
      rw [List.mem_singleton, Source.after.injEq]
      exact ⟨fun h => ⟨h ▸ hm, h⟩, And.right⟩
    · rename_i hm
      simp only [List.not_mem_nil, false_iff, not_and]
      rintro hv rfl
      exact hm hv

theorem pairwise_due (h : a.Distinct) (w : ℤ) : (a.due w).Pairwise Source.Before := by
  unfold due
  split
  · exact .nil
  · apply List.pairwise_append.2 ⟨?_, ?_, ?_⟩
    · rw [List.pairwise_map]
      exact (Assoc.pairwise_mergeSort h.every).filter _
    · split
      · exact List.pairwise_singleton _ _
      · exact .nil
    · intro s hs t ht
      obtain ⟨e, -, rfl⟩ := List.mem_map.1 hs
      split at ht
      · rw [List.mem_singleton.1 ht]
        trivial
      · cases ht

theorem count_due (h : a.Distinct) (w : ℤ) (s : Source) :
    (a.due w).count s = if s ∈ a.due w then 1 else 0 :=
  List.Nodup.count ((pairwise_due h w).imp Source.Before.ne)

/-- What a wave brings are the lists that are due for it. -/
theorem rewardsForWave_eq (h : a.Distinct) (w : ℤ) :
    a.rewardsForWave w = (a.due w).flatMap a.rewardsOf := by
  unfold rewardsForWave due
  split
  · rfl
  · rw [List.flatMap_append, List.flatMap_map]
    dsimp only
    congr 1
    · apply List.flatMap_congr
      intro e he
      have hmem : e ∈ a.every := List.mem_mergeSort.1 (List.mem_filter.1 he).1
      rw [rewardsOf, Assoc.lookup_of_mem h.every hmem, Option.getD_some]
    · split
      · rw [List.flatMap_singleton, rewardsOf]
      · rename_i hw
        cases hl : a.after.lookup w with
        | none => rfl
        | some gs => exact absurd (List.mem_map_of_mem (Assoc.mem_of_lookup hl)) hw

theorem dueUpTo_succ (n : ℕ) : a.dueUpTo (n + 1) = a.dueUpTo n ++ a.due (n + 1) := by
  unfold dueUpTo
  rw [List.range'_1_concat, List.flatMap_append, List.flatMap_singleton]
  congr 2
  omega

/-- A quotient grows by one at each multiple. -/
theorem succ_ediv (n : ℕ) {i : ℤ} (hi : 1 ≤ i) :
    ((n : ℤ) + 1) / i = n / i + if i ∣ (n : ℤ) + 1 then 1 else 0 := by
  obtain ⟨k, rfl⟩ := Int.eq_ofNat_of_zero_le (Int.le_of_lt hi)
  have hquot := Nat.succ_div (a := n) (b := k)
  split
  · rename_i hd
    rw [if_pos (by exact_mod_cast hd)] at hquot
    exact_mod_cast hquot
  · rename_i hd
    rw [if_neg (by exact_mod_cast hd)] at hquot
    exact_mod_cast hquot

/-- In the first `n` waves the list of an interval is due once for each multiple up to `n`. -/
theorem count_dueUpTo_every (h : a.Distinct) (i : ℤ) (n : ℕ) :
    ((a.dueUpTo n).count (.every i) : ℤ) =
      if i ∈ a.every.map (·.1) ∧ 1 ≤ i then n / i else 0 := by
  induction n with
  | zero => simp [dueUpTo]
  | succ n ih =>
    have hn : (1 : ℤ) ≤ n + 1 := by omega
    rw [dueUpTo_succ, List.count_append, Int.natCast_add, ih, count_due h, Int.natCast_add]
    simp only [mem_due_every, hn, true_and]
    by_cases hi : i ∈ a.every.map (·.1) ∧ 1 ≤ i
    · rw [if_pos hi, if_pos hi, Int.natCast_one, succ_ediv n hi.2]
      simp only [hi, true_and]
      split <;> rfl
    · rw [if_neg hi, if_neg hi, if_neg fun hd => hi ⟨hd.1, hd.2.1⟩]
      rfl

/-- The list of a wave is due once it has been reached. -/
theorem count_dueUpTo_after (h : a.Distinct) (w : ℤ) (n : ℕ) :
    (a.dueUpTo n).count (.after w) =
      if w ∈ a.after.map (·.1) ∧ 1 ≤ w ∧ w ≤ n then 1 else 0 := by
  induction n with
  | zero =>
    rw [if_neg (by omega)]
    rfl
  | succ n ih =>
    rw [dueUpTo_succ, List.count_append, ih, count_due h, Int.natCast_add]
    simp only [mem_due_after]
    by_cases hw : w ∈ a.after.map (·.1)
    · simp only [hw, true_and]
      split_ifs <;> omega
    · simp only [hw, false_and, and_false, if_false]

/-- The order in which the tables were filled does not matter. -/
theorem rewardsForWave_congr {a' : Arena} (h : a.Distinct) (he : a'.every.Perm a.every)
    (ha : a'.after.Perm a.after) (w : ℤ) : a'.rewardsForWave w = a.rewardsForWave w := by
  unfold rewardsForWave
  rw [Assoc.mergeSort_congr h.every he, Assoc.lookup_congr h.after ha]

/-- Each wave brings the lists of the intervals that end with it, shorter ones first, and its own list
last, however the tables are ordered. Over the first `n` waves this comes to one list of an interval in
every so many waves, and to the list of each wave once; lists under numbers below 1 never count. -/
theorem waves_bring_due {a : Arena} (h : a.Distinct) :
    (∀ w, a.rewardsForWave w = (a.due w).flatMap a.rewardsOf ∧ (a.due w).Pairwise Source.Before) ∧
    (∀ n : ℕ, ((List.range' 1 n).flatMap fun w : ℕ => a.rewardsForWave w) =
      (a.dueUpTo n).flatMap a.rewardsOf) ∧
    (∀ (n : ℕ) (i : ℤ), ((a.dueUpTo n).count (.every i) : ℤ) =
      if i ∈ a.every.map (·.1) ∧ 1 ≤ i then n / i else 0) ∧
    (∀ (n : ℕ) (w : ℤ), (a.dueUpTo n).count (.after w) =
      if w ∈ a.after.map (·.1) ∧ 1 ≤ w ∧ w ≤ n then 1 else 0) ∧
    ∀ a' : Arena, a'.every.Perm a.every → a'.after.Perm a.after →
      ∀ w, a'.rewardsForWave w = a.rewardsForWave w := by
  refine ⟨fun w => ⟨rewardsForWave_eq h w, pairwise_due h w⟩, fun n => ?_,
    fun n i => count_dueUpTo_every h i n, fun n w => count_dueUpTo_after h w n,
    fun a' he ha w => rewardsForWave_congr h he ha w⟩
  rw [dueUpTo, List.flatMap_assoc]
  simp only [rewardsForWave_eq h]

/-- In seven waves the list of every second wave is brought three times, and that of every third wave
twice; the lists under 0 and -1 are never brought. -/
theorem seven_waves :
    let node (t : Text) := Grantable.leaf (.permission t)
    let a : Arena := ⟨"a", [(3, [node "c"]), (0, [node "z"]), (2, [node "b"])],
      [(6, [node "f"]), (-1, [node "y"])], [], []⟩
    a.Distinct ∧ ((a.dueUpTo 7).count (.every 2) : ℤ) = 3 ∧ ((a.dueUpTo 7).count (.every 3) : ℤ) = 2 ∧
      ((a.dueUpTo 7).count (.every 0) : ℤ) = 0 ∧ (a.dueUpTo 7).count (.after 6) = 1 ∧
      (a.dueUpTo 7).count (.after (-1)) = 0 ∧
      ({ a with every := a.every.reverse } : Arena).rewardsForWave 6 = a.rewardsForWave 6 := by
  intro node a
  have h : a.Distinct := ⟨by decide, by decide⟩
  obtain ⟨-, -, hevery, hafter, horder⟩ := waves_bring_due h
  exact ⟨h, hevery 7 2, hevery 7 3, hevery 7 0, hafter 7 6, hafter 7 (-1),
    horder { a with every := a.every.reverse } (List.reverse_perm _) (List.Perm.refl _) 6⟩

end Rewards.Arena
