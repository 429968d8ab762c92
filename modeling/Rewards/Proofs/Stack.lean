import Rewards.Proofs.Kit
import Rewards.Proofs.Leaf

/-!
Stacks survive being written and read. What is in the slots of an inventory is written as one descriptor,
and a kit reads that as the same stacks, without a name and with wool in its native colours. Empty slots
and air leave nothing behind.
-/

namespace Rewards

open Text Catalog

namespace Stack

/-- A stack of the catalog with an amount and a native data value within its bounds. -/
structure Storable (s : Stack) : Prop where
  material : s.material ∈ materials
  amount : 1 ≤ s.amount
  data : 0 ≤ s.data
  data_le : s.data ≤ (if s.material = potion then Item.maxPotionData else Item.maxData : ℕ)
  enchantments : s.enchantments.WellFormed

/-- The integers that are written and may be long. -/
def integers (s : Stack) : List ℤ := s.amount :: s.enchantments.map (·.2)

/-- Equal up to the order of the enchantments. -/
def same (a b : Stack) : Bool :=
  a.material == b.material && a.amount == b.amount && a.data == b.data &&
    a.enchantments.same b.enchantments && a.displayName == b.displayName

def unnamed (s : Stack) : Stack := { s with displayName := none }

/-- The stacks in the slots, without air. -/
def kept (slots : List (Option Stack)) : List Stack :=
  (slots.filterMap id).filter (·.material ≠ air)

/-- Wool in the opposite order of colours stays within its bounds. -/
theorem storedData_bounds {m : Key} {d : ℤ} (h0 : 0 ≤ d)
    (hle : d ≤ (if m = potion then Item.maxPotionData else Item.maxData : ℕ)) :
    0 ≤ Item.storedData m d ∧
      Item.storedData m d ≤ (if m = potion then Item.maxPotionData else Item.maxData : ℕ) := by
  unfold Item.storedData
  split
  · rename_i hw
    rw [hw, if_neg (by decide)] at hle ⊢
    omega
  · exact ⟨h0, hle⟩

theorem isShort_data {m : Key} {d : ℤ} (h0 : 0 ≤ d)
    (hle : d ≤ (if m = potion then Item.maxPotionData else Item.maxData : ℕ)) : IsShort d := by
  have hlt : d.natAbs < 10 ^ 5 := by
    unfold Item.maxPotionData Item.maxData at hle
    split at hle <;> omega
  have hlen : (numeral d.natAbs).length ≤ 5 := (length_numeral_le_iff (by decide)).2 hlt
  exact hlen.trans (by decide)

/-- The descriptor of a stack. -/
def text (s : Stack) : Text := (Item.ofStack s).text

/-- The stack that its descriptor stands for. -/
def readBack (s : Stack) : Stack := (Item.ofStack s).sorted.toStack

section Storable

variable {s : Stack} (h : s.Storable)

include h

theorem wellFormed_ofStack : (Item.ofStack s).WellFormed where
  material := h.material
  amount := h.amount
  data := (storedData_bounds h.data h.data_le).1
  data_le := (storedData_bounds h.data h.data_le).2
  enchantments := h.enchantments

/-- Only the order of the enchantments and the name have changed. -/
theorem readBack_same : s.readBack.same s.unnamed = true := by
  have hs := Item.sorted_same (wellFormed_ofStack h)
  unfold Item.same at hs
  simp only [Bool.and_eq_true] at hs
  have hd : s.readBack.data = s.data := Item.storedData_storedData s.material s.data
  unfold same
  rw [hd]
  simp only [Bool.and_eq_true]
  exact ⟨⟨⟨⟨beq_self_eq_true _, beq_self_eq_true _⟩, beq_self_eq_true _⟩, hs.2⟩,
    beq_self_eq_true _⟩

variable (hs : ∀ n ∈ s.integers, IsShort n)

include hs

theorem isShort_integers_ofStack : ∀ n ∈ (Item.ofStack s).integers, IsShort n :=
  List.forall_mem_cons.2 ⟨isShort_data (wellFormed_ofStack h).data (wellFormed_ofStack h).data_le, hs⟩

theorem canonical_ofStack : (Item.ofStack s).canonical = .ok s.text :=
  Item.canonical_eq (wellFormed_ofStack h) (isShort_integers_ofStack h hs)

theorem whole_text : Token.Whole s.text := by
  have hr := Leaf.readsBack_item (wellFormed_ofStack h) (canonical_ofStack h hs)
  exact .inr ⟨hr.plain, hr.head⟩

theorem read_text : Item.read (some s.text) = .ok (Item.ofStack s).sorted := by
  have hw := wellFormed_ofStack h
  obtain ⟨hne, ht⟩ := Item.trimmed_text hw
  rw [Item.read, Option.getD_some, text, trim_of_trimmed ht, if_neg (by rwa [List.isEmpty_iff])]
  exact Item.ofToken_text hw (isShort_integers_ofStack h hs)

end Storable

/-- What is asked of the stacks in the slots; of air nothing is. -/
def Writable (s : Stack) : Prop := s.Storable ∧ ∀ n ∈ s.integers, IsShort n

theorem describeAll_eq {slots : List (Option Stack)} (h : ∀ s ∈ kept slots, s.Writable) :
    describeAll slots = .ok (joined ", ".toList ((kept slots).map text)) := by
  have heach : (slots.filterMap id).mapM canonical? =
      .ok ((slots.filterMap id).map fun s => if s.material = air then none else some s.text) := by
    rw [Outcome.mapM_eq_each]
    apply Outcome.each_eq_ok
    intro s hs
    rw [canonical?]
    split
    · rfl
    · rename_i ha
      obtain ⟨hw, hi⟩ := h s (List.mem_filter.2 ⟨hs, by simpa using ha⟩)
      rw [canonical_ofStack hw hi]
      rfl
  have hkept : ((slots.filterMap id).map fun s =>
      if s.material = air then none else some s.text).filterMap id = (kept slots).map text := by
    unfold kept
    induction slots.filterMap id with
    | nil => rfl
    | cons s ss ih =>
      by_cases ha : s.material = air
      · simpa [ha] using ih
      · simpa [ha] using ih
  rw [describeAll, heach]
  change Except.ok _ = _
  rw [hkept]

end Stack

namespace Stack

/-- The descriptor of any slots, empty ones and air among them, is read without a complaint as the
stacks in them, in order: the same material, amount, native data and enchantments, and no name. -/
theorem stacks_survive (slots : List (Option Stack))
    (h : ∀ s, some s ∈ slots → s.material ≠ air → s.Writable) :
    ∃ t ss, describeAll slots = .ok t ∧
      List.Forall₂ (fun s s' => s.same s' = true) ss ((kept slots).map unnamed) ∧
      ∀ j, Kit.stacksOfText t j = (.ok ss, j) := by
  have hk : ∀ s ∈ kept slots, s.Writable := by
    intro s hs
    obtain ⟨hm, ha⟩ := List.mem_filter.1 hs
    exact h s (by simpa using hm) (by simpa using ha)
  refine ⟨_, (kept slots).map readBack, describeAll_eq hk, ?_, fun j => ?_⟩
  · rw [List.forall₂_map_left_iff, List.forall₂_map_right_iff, List.forall₂_same]
    exact fun s hs => readBack_same (hk s hs).1
  · have ht : tokens (joined ", ".toList ((kept slots).map text)) = .ok ((kept slots).map text) := by
      apply Token.tokens_joined
      intro t ht
      obtain ⟨s, hs, rfl⟩ := List.mem_map.1 ht
      exact whole_text (hk s hs).1 (hk s hs).2
    rw [Kit.stacksOfText_of_tokens ht]
    exact Kit.itemStacks_of_read (fun s hs => read_text (hk s hs).1 (hk s hs).2) j

/-- Empty slots, air, red wool and a named bow whose enchantments are not in the order of their
numbers. -/
def hotbar : List (Option Stack) := [
  none, some ⟨air, 0, 0, [], none⟩, some ⟨wool, 64, 14, [], none⟩, none,
  some ⟨⟨261, "BOW"⟩, 1, 0, [("ARROW_DAMAGE".toList, -2), ("DURABILITY".toList, 3)],
    some "Slayer".toList⟩]

theorem hotbar_survives :
    (∀ s, some s ∈ hotbar → s.material ≠ air → s.Writable) ∧ (kept hotbar).length = 2 ∧
      ∃ t ss, describeAll hotbar = .ok t ∧
        List.Forall₂ (fun s s' => s.same s' = true) ss ((kept hotbar).map unnamed) ∧
        ∀ j, Kit.stacksOfText t j = (.ok ss, j) := by
  have h : ∀ s, some s ∈ hotbar → s.material ≠ air → s.Writable := by
    intro s hs ha
    simp only [hotbar, List.mem_cons, reduceCtorEq, Option.some.injEq, List.not_mem_nil, or_false,
      false_or] at hs
    obtain rfl | rfl | rfl := hs
    · exact absurd rfl ha
    · exact ⟨⟨by decide +kernel, by decide, by decide, by decide, ⟨by decide, by decide⟩⟩, by decide⟩
    · exact ⟨⟨by decide +kernel, by decide, by decide, by decide,
        ⟨by decide +kernel, by decide⟩⟩, by decide⟩
  exact ⟨h, by decide, stacks_survive hotbar h⟩

end Stack

end Rewards
