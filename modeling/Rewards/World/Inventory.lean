import Rewards.Stack

/-! The slots of an inventory: adding a stack, counting a material and taking some of it away. -/

namespace Rewards

abbrev Inventory := List (Option Stack)

namespace Inventory

-- Sums start at the numeral, also where the zero of a semiring is known.
attribute [local instance (high)] Zero.ofOfNat0

/-- Puts the stack into the first empty slot, if there is one. -/
def add? (s : Stack) : Inventory → Option Inventory
  | [] => none
  | none :: slots => some (some s :: slots)
  | some t :: slots => (add? s slots).map (some t :: ·)

/-- How many items of a material the slot holds. -/
def held (m : Key) : Option Stack → Int
  | none => 0
  | some s => if s.material = m then s.amount else 0

def count (m : Key) (slots : Inventory) : Int := (slots.map (held m)).sum

/-- Takes an amount from the slots that hold the material, first slot first; there is no answer if
they run out. A slot that is used up becomes empty. -/
def take? (m : Key) (amount : Int) : Inventory → Option Inventory
  | [] => none
  | none :: slots => (take? m amount slots).map (none :: ·)
  | some s :: slots =>
    if s.material = m then
      if amount < s.amount then some (some { s with amount := s.amount - amount } :: slots)
      else if amount = s.amount then some (none :: slots)
      else (take? m (amount - s.amount) slots).map (none :: ·)
    else (take? m amount slots).map (some s :: ·)

theorem length_of_add? {s : Stack} {slots slots' : Inventory} (h : slots.add? s = some slots') :
    slots'.length = slots.length := by
  induction slots generalizing slots' with
  | nil => cases h
  | cons t slots ih =>
    cases t with
    | none => cases h; rfl
    | some t =>
      obtain ⟨r, hr, rfl⟩ := Option.map_eq_some_iff.1 h
      simp [ih hr]

theorem length_of_take? {m : Key} {n : Int} {slots slots' : Inventory}
    (h : take? m n slots = some slots') : slots'.length = slots.length := by
  induction slots generalizing n slots' with
  | nil => cases h
  | cons t slots ih =>
    cases t with
    | none =>
      obtain ⟨r, hr, rfl⟩ := Option.map_eq_some_iff.1 h
      simp [ih hr]
    | some t =>
      unfold take? at h
      split at h
      · split at h
        · cases h; rfl
        · split at h
          · cases h; rfl
          · obtain ⟨r, hr, rfl⟩ := Option.map_eq_some_iff.1 h
            simp [ih hr]
      · obtain ⟨r, hr, rfl⟩ := Option.map_eq_some_iff.1 h
        simp [ih hr]

end Inventory

end Rewards
