import Rewards.Command.Run
import Rewards.Proofs.Canonical
import Rewards.Proofs.Command.Verdict
import Rewards.Proofs.Load.File

/-!
Showing the rewards of a file while it is checked. What stands in the cells of the tables is escaped,
but their titles, which start with the name of the arena, are not.
-/

namespace Rewards

open Text Display Session

namespace Leaf

/-- All integers of the thing can be written. -/
def Writable (l : Leaf) : Prop := ∀ n ∈ l.integers, IsShort n

theorem exists_display {l : Leaf} (h : l.WellFormed) (hs : l.Writable) : ∃ t, l.display = .ok t := by
  obtain ⟨t, ht⟩ := exists_canonical h hs
  cases l with
  | permission node => exact ⟨_, rfl⟩
  | item i =>
    change ∃ t, Item.counted (Item.lowerName i.material) i.amount = .ok t
    unfold Item.counted
    split
    · exact ⟨_, rfl⟩
    · rw [written_of_isShort (hs _ (by simp [integers, Item.integers]))]
      exact ⟨_, rfl⟩
  | stack s => exact h.elim
  | custom c => exact h.elim
  | _ => exact ⟨_, congrArg (Functor.map _) ht⟩

/-- The names of the kinds have no brackets. -/
theorem kindName_no_bracket {l : Leaf} (h : l.WellFormed) : '[' ∉ l.kindName := by
  cases l with
  | currency x => exact (by decide : '[' ∉ "Currency".toList)
  | permission node => exact (by decide : '[' ∉ "Permission".toList)
  | effect e => exact (by decide : '[' ∉ "Effect".toList)
  | item i => exact (by decide : '[' ∉ "Item".toList)
  | stack s => exact h.elim
  | custom c => exact h.elim

end Leaf

namespace Grantable

mutual

theorem exists_display : ∀ (g : Grantable), (∀ l ∈ leaves g, l.WellFormed ∧ l.Writable) →
    ∃ t, display g = .ok t
  | leaf l, h => by
    obtain ⟨hw, hs⟩ := h l (by simp [leaves])
    exact Leaf.exists_display hw hs
  | group gs, h => by
    obtain ⟨ts, hts⟩ := exists_displays gs (by simpa [leaves] using h)
    exact ⟨_, by rw [display, hts]; rfl⟩

theorem exists_displays : ∀ (gs : List Grantable),
    (∀ l ∈ leavesAll gs, l.WellFormed ∧ l.Writable) → ∃ ts, displays gs = .ok ts
  | [], _ => ⟨[], rfl⟩
  | g :: gs, h => by
    simp only [leavesAll, List.mem_append] at h
    obtain ⟨t, ht⟩ := exists_display g fun l hl => h l (.inl hl)
    obtain ⟨ts, hts⟩ := exists_displays gs fun l hl => h l (.inr hl)
    exact ⟨t :: ts, by rw [displays, ht, hts]; rfl⟩

end

section Rows

variable {α β : Type}

/-- On the condition `p` there is a value, with a property; otherwise a fault. -/
def Gives (x : Except Fault α) (good : α → Prop) (p : Prop) : Prop :=
  (p → ∃ a, x = .ok a ∧ good a) ∧ (¬p → ∃ f, x = .error f)

namespace Gives

variable {x : Except Fault α} {good : α → Prop} {better : β → Prop} {p q : Prop}

theorem congr (h : Gives x good p) (hpq : p ↔ q) : Gives x good q := propext hpq ▸ h

theorem pure {a : α} (h : good a) : Gives (pure a) good True :=
  ⟨fun _ => ⟨a, rfl, h⟩, fun h => absurd trivial h⟩

theorem self (x : Except Fault α) : Gives x (fun _ => True) (∃ a, x = .ok a) := by
  cases x with
  | ok a => exact ⟨fun _ => ⟨a, rfl, trivial⟩, fun h => absurd ⟨a, rfl⟩ h⟩
  | error f =>
    refine ⟨fun h => ?_, fun _ => ⟨f, rfl⟩⟩
    obtain ⟨a, h⟩ := h
    cases h

theorem bind {f : α → Except Fault β} (hx : Gives x good p)
    (hf : ∀ a, good a → Gives (f a) better q) : Gives (x >>= f) better (p ∧ q) := by
  by_cases hp : p
  · obtain ⟨a, rfl, ha⟩ := hx.1 hp
    exact (hf a ha).congr (and_iff_right hp).symm
  · obtain ⟨e, rfl⟩ := hx.2 hp
    exact ⟨fun h => absurd h.1 hp, fun _ => ⟨e, rfl⟩⟩

end Gives

/-- Cells that can be shown. -/
def Showable (cells : List Text) : Prop := ∀ m ∈ cells, Markup.Matched m

/-- Values are escaped; a kind stands behind blanks. -/
theorem gives_cells (depth : ℕ) {kind : Text} (hk : '[' ∉ kind) (display canonical : Except Fault Text) :
    Gives (rows.cells depth kind display canonical) Showable
      ((∃ t, display = .ok t) ∧ (∃ t, canonical = .ok t) ∧ True) := by
  apply (Gives.self display).bind
  intro d _
  apply (Gives.self canonical).bind
  intro c _
  apply Gives.pure
  unfold Showable
  rw [List.forall_mem_cons, List.forall_mem_cons, List.forall_mem_singleton]
  refine ⟨Markup.matched_of_not_mem ?_, Markup.matched_escaped d, Markup.matched_escaped c⟩
  rw [List.mem_append, not_or]
  exact ⟨fun hb => absurd (List.eq_of_mem_replicate hb) (by decide), hk⟩

mutual

theorem gives_rows : ∀ (depth : ℕ) (g : Grantable), (∀ l ∈ leaves g, l.WellFormed) →
    Gives (rows depth g) (∀ cells ∈ ·, Showable cells) (∀ l ∈ leaves g, l.Writable)
  | depth, leaf l, hw => by
    rw [leaves, List.forall_mem_singleton] at hw ⊢
    have h : Gives (rows depth (leaf l)) (∀ cells ∈ ·, Showable cells) _ :=
      (gives_cells depth (Leaf.kindName_no_bracket hw) l.display l.canonical).bind
        fun row hrow => Gives.pure (List.forall_mem_singleton.2 hrow)
    refine h.congr ⟨fun h => ?_, fun h => ?_⟩
    · obtain ⟨⟨-, ⟨t, ht⟩, -⟩, -⟩ := h
      exact Leaf.isShort_of_canonical hw ht
    · exact ⟨⟨Leaf.exists_display hw h, Leaf.exists_canonical hw h, trivial⟩, trivial⟩
  | depth, group gs, hw => by
    rw [leaves] at hw ⊢
    have h : Gives (rows depth (group gs)) (∀ cells ∈ ·, Showable cells) _ :=
      (gives_cells depth (by decide : '[' ∉ "Group".toList) (group gs).display
        (group gs).canonical).bind fun row hrow =>
          (gives_rowsAll (depth + 1) gs hw).bind fun rest hrest =>
            Gives.pure (List.forall_mem_cons.2 ⟨hrow, hrest⟩)
    refine h.congr ⟨fun h => h.2.1, fun h => ?_⟩
    have hboth : ∀ l ∈ leaves (group gs), l.WellFormed ∧ l.Writable := by
      rw [leaves]
      exact fun l hl => ⟨hw l hl, h l hl⟩
    exact ⟨⟨exists_display _ hboth, exists_canonical _ hboth, trivial⟩, h, trivial⟩

theorem gives_rowsAll : ∀ (depth : ℕ) (gs : List Grantable), (∀ l ∈ leavesAll gs, l.WellFormed) →
    Gives (rowsAll depth gs) (∀ cells ∈ ·, Showable cells) (∀ l ∈ leavesAll gs, l.Writable)
  | depth, [], hw => (Gives.pure (by simp)).congr (by simp [leavesAll])
  | depth, g :: gs, hw => by
    rw [leavesAll, List.forall_mem_append] at hw ⊢
    have h : Gives (rowsAll depth (g :: gs)) (∀ cells ∈ ·, Showable cells) _ :=
      (gives_rows depth g hw.1).bind fun first hfirst =>
        (gives_rowsAll depth gs hw.2).bind fun rest hrest =>
          Gives.pure (List.forall_mem_append.2 ⟨hfirst, hrest⟩)
    exact h.congr (and_congr_right' (and_iff_left trivial))

end

end Rows

end Grantable

open Grantable

namespace Arena

/-- The lists of an arena that are shown. -/
def shown (a : Arena) : List (List Grantable) :=
  a.every.map (·.2) ++ a.after.map (·.2) ++ [a.completion]

end Arena

namespace Command

end Command

namespace Invocation

end Invocation

end Rewards
