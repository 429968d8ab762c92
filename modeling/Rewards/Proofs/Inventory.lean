import Rewards.Proofs.Host

/-!
Taking a material out of an inventory. The slots that hold it are used up in their order until one
covers what is still to be taken; if none does, nothing is taken. So taking and counting agree.
-/

namespace Rewards

namespace Inventory

-- Sums start at the numeral, as in the definition of the count.
attribute [local instance (high)] Zero.ofOfNat0

/-- Every stack in the slots holds something. -/
def Stocked (slots : Inventory) : Prop := ∀ s, some s ∈ slots → 1 ≤ s.amount

/-- The slot without the material. -/
def cleared (m : Key) (slot : Option Stack) : Option Stack := slot.filter (·.material ≠ m)

/-- What stays in the slot of a stack of which so many are left. -/
def remnant (s : Stack) (left : Int) : Option Stack :=
  if left = 0 then none else some { s with amount := left }

/-- The slots after the amount has been taken out of them: all that held the material before the pivot
are empty, and all behind it are as they were. -/
structure Taken (m : Key) (n : Int) (slots slots' : Inventory) : Prop where
  length : slots'.length = slots.length
  count : slots'.count m = slots.count m - n
  others : ∀ (i : Nat) (slot : Option Stack), slots[i]? = some slot →
    (∀ s ∈ slot, s.material ≠ m) → slots'[i]? = some slot
  pivot : ∃ front s left back, slots = front ++ some s :: back ∧ s.material = m ∧
    slots' = front.map (cleared m) ++ left :: back ∧
    (left = none ∨ ∃ k, 0 < k ∧ k < s.amount ∧ left = some { s with amount := k })

section Stocked

variable {slot : Option Stack} {slots front back : Inventory}

theorem stocked_cons : Stocked (slot :: slots) ↔ (∀ s ∈ slot, 1 ≤ s.amount) ∧ Stocked slots := by
  simp only [Stocked, List.mem_cons, or_imp, forall_and, eq_comm, Option.mem_def]

theorem Stocked.of_append (h : Stocked (front ++ back)) : Stocked front :=
  fun s hs => h s (List.mem_append_left _ hs)

instance (slots : Inventory) : Decidable (Stocked slots) :=
  decidable_of_iff (∀ slot ∈ slots, ∀ s ∈ slot, 1 ≤ s.amount)
    ⟨fun h s hs => h _ hs s rfl, fun h _ hs s hslot => h s (Option.mem_def.1 hslot ▸ hs)⟩

end Stocked

section Counting

variable {m : Key} {s : Stack} {slot : Option Stack} {slots : Inventory}

theorem count_cons : count m (slot :: slots) = held m slot + count m slots := List.sum_cons

theorem count_append (front back : Inventory) :
    count m (front ++ back) = count m front + count m back := by
  induction front with
  | nil => exact (Int.zero_add _).symm
  | cons slot front ih => rw [List.cons_append, count_cons, count_cons, ih, Int.add_assoc]

theorem held_of_eq (h : s.material = m) : held m (some s) = s.amount := if_pos h

theorem held_of_ne (h : s.material ≠ m) : held m (some s) = 0 := if_neg h

theorem cleared_of_eq (h : s.material = m) : cleared m (some s) = none :=
  Option.filter_some_neg (by simpa using h)

theorem cleared_of_ne (h : ∀ s ∈ slot, s.material ≠ m) : cleared m slot = slot := by
  cases slot with
  | none => rfl
  | some s => exact Option.filter_some_pos (by simpa using h s rfl)

theorem held_cleared (slot : Option Stack) : held m (cleared m slot) = 0 := by
  cases slot with
  | none => rfl
  | some s =>
    by_cases h : s.material = m
    · rw [cleared_of_eq h]
      rfl
    · rw [cleared_of_ne (by simpa using h)]
      exact held_of_ne h

theorem count_map_cleared (slots : Inventory) : count m (slots.map (cleared m)) = 0 := by
  induction slots with
  | nil => rfl
  | cons slot slots ih => rw [List.map_cons, count_cons, held_cleared, ih]; rfl

theorem held_remnant (h : s.material = m) (left : Int) : held m (remnant s left) = left := by
  unfold remnant
  split
  · rename_i h0
    exact h0.symm
  · exact held_of_eq h

theorem held_nonneg (h : ∀ s ∈ slot, 1 ≤ s.amount) : 0 ≤ held m slot := by
  cases slot with
  | none => exact Int.le_refl 0
  | some s =>
    have hs : 1 ≤ s.amount := h s rfl
    by_cases hm : s.material = m
    · rw [held_of_eq hm]
      omega
    · exact Int.le_of_eq (held_of_ne hm).symm

theorem count_nonneg (h : Stocked slots) : 0 ≤ count m slots := by
  induction slots with
  | nil => exact Int.le_refl 0
  | cons slot slots ih =>
    obtain ⟨hslot, hslots⟩ := stocked_cons.1 h
    rw [count_cons]
    exact Int.add_nonneg (held_nonneg hslot) (ih hslots)

end Counting

section Taking

variable {m : Key} {n : Int} {s : Stack} {slots front back : Inventory}

/-- Slots that hold too little are emptied, and the rest is taken behind them. -/
theorem take?_append (h : Stocked front) (hn : count m front < n) (back : Inventory) :
    take? m n (front ++ back) =
      (take? m (n - count m front) back).map (front.map (cleared m) ++ ·) := by
  induction front generalizing n with
  | nil =>
    rw [show n - count m [] = n from Int.sub_zero n]
    exact Option.map_id'.symm
  | cons slot front ih =>
    obtain ⟨hslot, hfront⟩ := stocked_cons.1 h
    rw [count_cons] at hn ⊢
    have h0 : 0 ≤ count m front := count_nonneg hfront
    cases slot with
    | none =>
      have hheld : held m none = 0 := rfl
      rw [hheld, Int.zero_add] at hn ⊢
      rw [List.cons_append, take?, ih hfront hn, Option.map_map]
      rfl
    | some s =>
      by_cases hm : s.material = m
      · rw [held_of_eq hm] at hn ⊢
        have hle : ¬ n < s.amount := by omega
        have hne : ¬ n = s.amount := by omega
        have hrest : n - s.amount - count m front = n - (s.amount + count m front) := by omega
        rw [List.cons_append, take?, if_pos hm, if_neg hle, if_neg hne, ih hfront (by omega),
          Option.map_map, hrest, List.map_cons, cleared_of_eq hm]
        rfl
      · rw [held_of_ne hm, Int.zero_add] at hn ⊢
        have hkept : cleared m (some s) = some s := cleared_of_ne (by simpa using hm)
        rw [List.cons_append, take?, if_neg hm, ih hfront hn, Option.map_map, List.map_cons, hkept]
        rfl

theorem take?_cons_of_le (hm : s.material = m) (hn : n ≤ s.amount) (back : Inventory) :
    take? m n (some s :: back) = some (remnant s (s.amount - n) :: back) := by
  rw [take?, if_pos hm, remnant]
  obtain h | rfl := Int.lt_or_eq_of_le hn
  · rw [if_pos h, if_neg (by omega)]
  · rw [if_neg (Int.lt_irrefl _), if_pos rfl, if_pos (Int.sub_self _)]

/-- If there is enough, then some slot covers what those before it leave to be taken. -/
theorem exists_pivot (hn : 1 ≤ n) (h : n ≤ count m slots) : ∃ front s back,
    slots = front ++ some s :: back ∧ s.material = m ∧
      count m front < n ∧ n ≤ count m front + s.amount := by
  induction slots generalizing n with
  | nil =>
    have h0 : n ≤ 0 := h
    omega
  | cons slot slots ih =>
    by_cases hslot : n ≤ held m slot
    · cases slot with
      | none =>
        have h0 : n ≤ 0 := hslot
        omega
      | some s =>
        by_cases hm : s.material = m
        · rw [held_of_eq hm] at hslot
          have h0 : count m [] = 0 := rfl
          exact ⟨[], s, slots, rfl, hm, by omega, by omega⟩
        · rw [held_of_ne hm] at hslot
          omega
    · rw [count_cons] at h
      obtain ⟨front, s, back, rfl, hm, hlt, hle⟩ := ih (n := n - held m slot) (by omega) (by omega)
      refine ⟨slot :: front, s, back, rfl, hm, ?_, ?_⟩
      · rw [count_cons]
        omega
      · rw [count_cons]
        omega

/-- What is left where a slot covers what those before it leave to be taken. -/
theorem take?_at_pivot (h : Stocked front) (hm : s.material = m) (hlt : count m front < n)
    (hle : n ≤ count m front + s.amount) (back : Inventory) :
    take? m n (front ++ some s :: back) =
      some (front.map (cleared m) ++ remnant s (count m front + s.amount - n) :: back) := by
  have hleft : s.amount - (n - count m front) = count m front + s.amount - n := by omega
  rw [take?_append h hlt, take?_cons_of_le hm (by omega), hleft]
  rfl

theorem taken_at_pivot (hm : s.material = m) (hlt : count m front < n)
    (hle : n ≤ count m front + s.amount) (back : Inventory) :
    Taken m n (front ++ some s :: back)
      (front.map (cleared m) ++ remnant s (count m front + s.amount - n) :: back) where
  length := by rw [List.length_append, List.length_append, List.length_map]; rfl
  count := by
    rw [count_append, count_append, count_cons, count_cons, count_map_cleared, held_remnant hm,
      held_of_eq hm]
    omega
  others i slot hi hslot := by
    rcases Nat.lt_trichotomy i front.length with hlen | rfl | hlen
    · rw [List.getElem?_append_left hlen] at hi
      rw [List.getElem?_append_left (by rwa [List.length_map]), List.getElem?_map, hi,
        Option.map_some, cleared_of_ne hslot]
    · rw [List.getElem?_append_right (Nat.le_refl _), Nat.sub_self] at hi
      obtain rfl : some s = slot := Option.some.inj hi
      exact absurd hm (hslot s rfl)
    · obtain ⟨k, hk⟩ : ∃ k, i - front.length = k + 1 := ⟨i - front.length - 1, by omega⟩
      rw [List.getElem?_append_right (Nat.le_of_lt hlen), hk, List.getElem?_cons_succ] at hi
      have hlen' : (front.map (cleared m)).length ≤ i := by
        rw [List.length_map]
        exact Nat.le_of_lt hlen
      rw [List.getElem?_append_right hlen', List.length_map, hk, List.getElem?_cons_succ, hi]
  pivot := by
    refine ⟨front, s, _, back, rfl, hm, rfl, ?_⟩
    unfold remnant
    split
    · exact .inl rfl
    · exact .inr ⟨_, by omega, by omega, rfl⟩

theorem exists_taken (h : Stocked slots) (hn : 1 ≤ n) (hle : n ≤ count m slots) :
    ∃ slots', take? m n slots = some slots' ∧ Taken m n slots slots' := by
  obtain ⟨front, s, back, rfl, hm, hlt, hpivot⟩ := exists_pivot hn hle
  exact ⟨_, take?_at_pivot h.of_append hm hlt hpivot back, taken_at_pivot hm hlt hpivot back⟩

theorem take?_eq_none (h : Stocked slots) (hlt : count m slots < n) : take? m n slots = none := by
  rw [← List.append_nil slots, take?_append h hlt]
  rfl

/-- Taking and counting agree. -/
theorem isSome_take?_iff (h : Stocked slots) (hn : 1 ≤ n) :
    (take? m n slots).isSome ↔ n ≤ count m slots := by
  by_cases hle : n ≤ count m slots
  · obtain ⟨slots', ht, -⟩ := exists_taken h hn hle
    simp only [ht, Option.isSome_some, hle]
  · simp only [take?_eq_none h (Int.not_le.1 hle), hle, Option.isSome_none, Bool.false_eq_true]

end Taking

end Inventory

namespace Leaf

/-- The material and the amount of something that lies in slots. -/
def stock? : Leaf → Option (Key × Int)
  | item i => some (i.material, i.amount)
  | stack s => some (s.material, s.amount)
  | _ => none

variable {ε σ : Type} {l : Leaf} {m : Key} {n : Int}

theorem takeBy_of_stock? (hl : l.stock? = some (m, n)) (h : Host ε σ) :
    l.takeBy h = h.takeStack m n := by
  cases l <;> cases hl <;> rfl

theorem hasBy_of_stock? (hl : l.stock? = some (m, n)) (h : Host ε σ) : l.hasBy h = h.holds m n := by
  cases l <;> cases hl <;> rfl

theorem take_of_stock? (hl : l.stock? = some (m, n)) (sv : Services) (who : Text) (w : World) :
    l.take sv who w = w.takeStack who m n := by
  cases l <;> cases hl <;> rfl

theorem has_of_stock? (hl : l.stock? = some (m, n)) (sv : Services) (who : Text) (w : World) :
    l.has sv who w = w.holds who m n := by
  cases l <;> cases hl <;> rfl

end Leaf

namespace Inventory

section Host

variable {ε σ : Type} {h : Host ε σ} {s s₁ : σ} {m : Key} {n : Int} {slots : Inventory}

theorem run_holds (hc : h.contents.run s = (.ok slots, s₁)) :
    (h.holds m n).run s = (.ok (decide (n ≤ slots.count m)), s₁) :=
  Deed.run_bind_ok hc

theorem run_takeStack_none (hc : h.contents.run s = (.ok slots, s₁))
    (ht : slots.take? m n = none) : (h.takeStack m n).run s = (.ok false, s₁) := by
  rw [Host.takeStack, Deed.run_bind_ok hc, ht]
  rfl

theorem run_takeStack_some {slots' : Inventory} (hc : h.contents.run s = (.ok slots, s₁))
    (ht : slots.take? m n = some slots') :
    (h.takeStack m n).run s = (do h.setContents slots'; return true : Deed ε σ Bool).run s₁ := by
  rw [Host.takeStack, Deed.run_bind_ok hc, ht]

end Host

/-- Taking is exact, and takes all or nothing. Whatever keeps the slots, counting says yes exactly if
there is enough. Then taking writes back slots from which the amount is gone, and says yes; otherwise it
says no and writes nothing back, so a world stays as it was. What an item or a stack answers when it is
taken is therefore what it answered when it was asked for. -/
theorem taking_is_exact {slots : Inventory} (hs : Stocked slots) (m : Key) {n : Int} (hn : 1 ≤ n) :
    (∀ {ε σ : Type} (h : Host ε σ) (s s₁ : σ), h.contents.run s = (.ok slots, s₁) →
      (h.holds m n).run s = (.ok (decide (n ≤ slots.count m)), s₁) ∧
      (n ≤ slots.count m → ∃ slots', Taken m n slots slots' ∧
        (h.takeStack m n).run s = (do h.setContents slots'; return true : Deed ε σ Bool).run s₁) ∧
      (slots.count m < n → (h.takeStack m n).run s = (.ok false, s₁))) ∧
    ∀ l : Leaf, l.stock? = some (m, n) →
      (∀ {ε σ : Type} (h : Host ε σ), l.takeBy h = h.takeStack m n ∧ l.hasBy h = h.holds m n) ∧
      ∀ sv who (w : World) (p : Player), w.players.lookup who = some p → p.slots = slots →
        l.has sv who w = decide (n ≤ slots.count m) ∧
        (l.has sv who w = true → ∃ slots', Taken m n slots slots' ∧
          l.take sv who w = (true, w.setPlayer who { p with slots := slots' })) ∧
        (l.has sv who w = false → l.take sv who w = (false, w)) := by
  refine ⟨fun h s s₁ hc => ⟨run_holds hc, fun hle => ?_, fun hlt => ?_⟩, fun l hl =>
    ⟨fun h => ⟨Leaf.takeBy_of_stock? hl h, Leaf.hasBy_of_stock? hl h⟩, ?_⟩⟩
  · obtain ⟨slots', ht, htaken⟩ := exists_taken hs hn hle
    exact ⟨slots', htaken, run_takeStack_some hc ht⟩
  · exact run_takeStack_none hc (take?_eq_none hs hlt)
  · intro sv who w p hp hslots
    subst hslots
    have hhas : l.has sv who w = decide (n ≤ p.slots.count m) := by
      rw [Leaf.has_of_stock? hl, World.holds, hp]
    refine ⟨hhas, fun hyes => ?_, fun hno => ?_⟩
    · rw [hhas, decide_eq_true_eq] at hyes
      obtain ⟨slots', ht, htaken⟩ := exists_taken hs hn hyes
      exact ⟨slots', htaken, by simp only [Leaf.take_of_stock? hl, World.takeStack, hp, ht]⟩
    · rw [hhas, decide_eq_false_iff_not, Int.not_le] at hno
      simp only [Leaf.take_of_stock? hl, World.takeStack, hp, take?_eq_none hs hno]

/-- Seven arrows out of five, and three behind a stick: the first slot is emptied, and one arrow stays
in the last. -/
theorem taking_seven_arrows :
    let arrow : Key := ⟨262, "ARROW"⟩
    let arrows (n : Int) : Option Stack := some ⟨arrow, n, 0, [], none⟩
    let stick : Option Stack := some ⟨⟨280, "STICK"⟩, 1, 0, [], none⟩
    let world (slots : Inventory) : World := ⟨[("p", ⟨slots, [], true⟩)], none, none⟩
    let slots := [arrows 5, none, stick, arrows 3]
    Stocked slots ∧ Leaf.has ⟨false, false⟩ "p" (.item ⟨arrow, 7, 0, []⟩) (world slots) = true ∧
      ∃ slots', Taken arrow 7 slots slots' ∧
        Leaf.take ⟨false, false⟩ "p" (.item ⟨arrow, 7, 0, []⟩) (world slots) =
          (true, (world slots).setPlayer "p" ⟨slots', [], true⟩) := by
  intro arrow arrows stick world slots
  have hs : Stocked slots := by decide
  obtain ⟨-, htake⟩ := taking_is_exact hs arrow (n := 7) (by decide)
  obtain ⟨-, hworld⟩ := htake (.item ⟨arrow, 7, 0, []⟩) rfl
  obtain ⟨hhas, hyes, -⟩ := hworld ⟨false, false⟩ "p" (world slots) _ rfl rfl
  have henough : Leaf.has ⟨false, false⟩ "p" (.item ⟨arrow, 7, 0, []⟩) (world slots) = true := by
    rw [hhas]
    decide
  exact ⟨hs, henough, hyes henough⟩

end Inventory

end Rewards
