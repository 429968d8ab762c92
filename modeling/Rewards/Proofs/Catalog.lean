import Mathlib.Data.List.Basic
import Mathlib.Data.Nat.Digits.Defs
import Mathlib.Tactic.Common
import Rewards.Item
import Rewards.Proofs.Assoc
import Rewards.Proofs.Text.Numeral
import Rewards.Proofs.Text.Trimming
import Rewards.Proofs.Token.Nesting

/-!
Looking up what the catalog prints. The names of the catalog are distinct and of capital letters
and underscores, so that the lower name of a key finds the key again.
-/

namespace Rewards.Catalog

open Text Token

/-- The characters of the names. -/
def nameChars : Text := "ABCDEFGHIJKLMNOPQRSTUVWXYZ_".toList

/-- Letters and underscores may stand in a lower name. -/
def isLowerChar (c : Char) : Bool := c.isLower || c = '_'

theorem mem_nameChars {c : Char} (h : c.isUpper || c = '_') : c ∈ nameChars := by
  simp only [Bool.or_eq_true, decide_eq_true_eq] at h
  obtain h | rfl := h
  · have hu : 65 ≤ c.toNat ∧ c.toNat ≤ 90 := by
      have hv : c.val ≥ 65 ∧ c.val ≤ 90 := of_decide_eq_true h
      simpa [UInt32.le_iff_toNat_le] using hv
    have hof := Char.ofNat_toNat c
    obtain ⟨h1, h2⟩ := hu
    generalize c.toNat = n at *
    subst hof
    have hall : ∀ n ∈ List.range' 65 26, Char.ofNat n ∈ nameChars := by decide
    exact hall n (List.mem_range'_1.2 (by omega))
  · decide

theorem upperChar_toLower : ∀ c ∈ nameChars, upperChar c.toLower = [c] := by decide +kernel

theorem isLowerChar_toLower : ∀ c ∈ nameChars, isLowerChar c.toLower := by decide

theorem separator_of_mem_nameChars : ∀ c ∈ nameChars, ¬(c = ' ' ∨ c = '-') := by decide

/-- A letter or an underscore is neither blank, nor a digit, nor a mark of the syntax. -/
theorem isLowerChar_cases {c : Char} (h : isLowerChar c) :
    isBlank c = false ∧ isAsciiDigit c = false ∧ isParen c = false ∧ c ≠ ',' ∧ c ≠ ':' := by
  simp only [isLowerChar, Bool.or_eq_true, decide_eq_true_eq] at h
  obtain h | rfl := h
  · have hu : 97 ≤ c.toNat ∧ c.toNat ≤ 122 := by
      have hv : (c.val ≥ 97 && c.val ≤ 122) = true := h
      simpa [UInt32.le_iff_toNat_le] using hv
    have hof := Char.ofNat_toNat c
    obtain ⟨h1, h2⟩ := hu
    generalize c.toNat = n at *
    subst hof
    have hall : ∀ n ∈ List.range' 97 26, isBlank (Char.ofNat n) = false ∧
        isAsciiDigit (Char.ofNat n) = false ∧ isParen (Char.ofNat n) = false ∧
        Char.ofNat n ≠ ',' ∧ Char.ofNat n ≠ ':' := by decide
    exact hall n (List.mem_range'_1.2 (by omega))
  · decide

/-- Names are not empty and have no other characters. -/
def IsName (n : Text) : Prop := n ≠ [] ∧ ∀ c ∈ n, (c.isUpper || c = '_') = true

instance (n : Text) : Decidable (IsName n) := inferInstanceAs (Decidable (_ ∧ _))

/-- Names neither start nor end with an underscore. -/
def IsBare (n : Text) : Prop := (∀ c ∈ n.head?, c ≠ '_') ∧ ∀ c ∈ n.getLast?, c ≠ '_'

instance (n : Text) : Decidable (IsBare n) := inferInstanceAs (Decidable (_ ∧ _))

section Name

variable {n : Text} (hn : IsName n)

include hn

theorem isLowerChar_of_mem_lower : ∀ c ∈ n.map Char.toLower, isLowerChar c := by
  intro c hc
  obtain ⟨d, hd, rfl⟩ := List.mem_map.1 hc
  exact isLowerChar_toLower d (mem_nameChars (hn.2 d hd))

theorem normalized_lower : normalized (n.map Char.toLower) = n := by
  have ht : Trimmed (n.map Char.toLower) :=
    trimmed_of_forall fun c hc => (isLowerChar_cases (isLowerChar_of_mem_lower hn c hc)).1
  have hu : ∀ m : Text, (∀ c ∈ m, c ∈ nameChars) → upper (m.map Char.toLower) = m := by
    intro m hm
    induction m with
    | nil => rfl
    | cons c m ih =>
      obtain ⟨hc, hm⟩ := List.forall_mem_cons.1 hm
      rw [List.map_cons, upper, List.flatMap_cons, upperChar_toLower c hc]
      exact congrArg (c :: ·) (ih hm)
  rw [normalized, trim_of_trimmed ht, hu n fun c hc => mem_nameChars (hn.2 c hc)]
  refine (List.map_congr_left fun c hc => ?_).trans (List.map_id n)
  rw [if_neg (separator_of_mem_nameChars c (mem_nameChars (hn.2 c hc)))]
  rfl

theorem isNumeral_lower : isNumeral (n.map Char.toLower) = false := by
  obtain ⟨c, m, rfl⟩ := List.exists_cons_of_ne_nil hn.1
  have := (isLowerChar_cases (isLowerChar_of_mem_lower hn c.toLower (by simp))).2.1
  simp [isNumeral, this]

theorem find?_lower {table : List Key} {k : Key} (h : named? table n = some k) :
    find? table (n.map Char.toLower) = .ok (some k) := by
  rw [find?, isNumeral_lower hn, normalized_lower hn, h]
  rfl

end Name

theorem isNumeral_numeral (n : ℕ) : isNumeral (numeral n) = true := by
  rw [isNumeral, Bool.and_eq_true, Bool.not_eq_true', List.isEmpty_eq_false_iff, List.all_eq_true]
  exact ⟨numeral_ne_nil n, fun c => isAsciiDigit_of_mem_numeral⟩

-- Numbers are told apart faster than texts, so the names are taken for digits.
theorem materials_names : (∀ k ∈ materials, IsName k.name ∧ IsBare k.name) ∧
    (materials.map fun k => Nat.ofDigits 128 (k.name.map Char.toNat)).Nodup := by
  decide +kernel

theorem nodup_materials : (materials.map (·.name)).Nodup := by
  refine List.Nodup.of_map (fun n => Nat.ofDigits 128 (n.map Char.toNat)) ?_
  rw [List.map_map]
  exact materials_names.2

theorem materials_named (k : Key) (h : k ∈ materials) :
    IsName k.name ∧ named? materials k.name = some k :=
  ⟨(materials_names.1 k h).1, find?_of_nodup_map nodup_materials h⟩

theorem effects_named : ∀ k ∈ effects, IsName k.name ∧ named? effects k.name = some k := by
  decide +kernel

theorem enchantments_named : ∀ k ∈ enchantments, IsName k.name ∧
    named? enchantments k.name = some k ∧ numbered? enchantments k.id = some k ∧
    (numeral k.id).length ≤ 2 := by
  decide +kernel

theorem dyes_named : ∀ k ∈ dyes, IsName k.name := by decide +kernel

theorem material?_lowerName {k : Key} (h : k ∈ materials) :
    material? (Item.lowerName k) = .ok (some k) :=
  find?_lower (materials_named k h).1 (materials_named k h).2

theorem effect?_lowerName {k : Key} (h : k ∈ effects) :
    effect? (Item.lowerName k) = .ok (some k) :=
  find?_lower (effects_named k h).1 (effects_named k h).2

/-- Parentheses and the symbols of the built-in kinds. -/
def marks : Text := "()$#@".toList

/-- A character that is in no name and in no number, and stays in the form in which names are
compared. -/
def IsForeign (c : Char) : Prop :=
  isBlank c = false ∧ isAsciiDigit c = false ∧ (c.isUpper || c = '_') = false ∧
    upperChar c = [c] ∧ ¬(c = ' ' ∨ c = '-')

instance (c : Char) : Decidable (IsForeign c) := inferInstanceAs (Decidable (_ ∧ _))

theorem isForeign_of_mem_marks : ∀ c ∈ marks, IsForeign c := by decide +kernel

section Foreign

variable {c : Char} (hc : IsForeign c) {t : Text}

include hc

theorem IsForeign.mem_normalized (h : c ∈ t) : c ∈ normalized t := by
  obtain ⟨hb, -, -, hu, hs⟩ := hc
  have hupper : c ∈ upper (trim t) := by
    refine List.mem_flatMap.2 ⟨c, mem_trim hb h, ?_⟩
    rw [hu]
    exact List.mem_singleton_self c
  exact List.mem_map.2 ⟨c, hupper, if_neg hs⟩

theorem IsForeign.not_mem_of_isNumeral (h : isNumeral t = true) : c ∉ t := by
  intro hm
  rw [isNumeral, Bool.and_eq_true, List.all_eq_true] at h
  have := h.2 c hm
  rw [hc.2.1] at this
  cases this

variable {table : List Key} (ht : ∀ k ∈ table, IsName k.name) {k : Key}

include ht

theorem IsForeign.not_mem_of_named? (h : named? table (normalized t) = some k) : c ∉ t := by
  intro hm
  obtain ⟨hk, hn⟩ := named?_mem h
  have hname := (ht k hk).2 c (hn ▸ hc.mem_normalized hm)
  rw [hc.2.2.1] at hname
  cases hname

/-- What finds a key of the catalog has no foreign character. -/
theorem IsForeign.not_mem_of_find? (h : find? table t = .ok (some k)) : c ∉ t := by
  rw [find?] at h
  split at h
  · rename_i hn
    exact hc.not_mem_of_isNumeral hn
  · exact hc.not_mem_of_named? ht (Except.ok.inj h)

end Foreign

theorem parens_of_marks {t : Text} (h : ∀ c ∈ marks, c ∉ t) : parens t = [] := by
  have hall : ∀ c ∈ ['(', ')'], c ∈ marks := by decide
  refine parens_eq_nil_iff.2 fun c hc => ?_
  rw [Bool.eq_false_iff]
  intro hp
  exact h c (hall c (by simpa [isParen] using hp)) hc

/-- What finds a key of the catalog has no parentheses. -/
theorem parens_of_find? {table : List Key} (ht : ∀ k ∈ table, IsName k.name) {t : Text} {k : Key}
    (h : find? table t = .ok (some k)) : parens t = [] :=
  parens_of_marks fun c hc => (isForeign_of_mem_marks c hc).not_mem_of_find? ht h

theorem enchantment?_numeral {k : Key} (h : k ∈ enchantments) :
    enchantment? (numeral k.id) = .ok (some k) := by
  obtain ⟨-, -, hk, hl⟩ := enchantments_named k h
  have hs : IsShort k.id := hl.trans (by decide)
  rw [enchantment?, find?, isNumeral_numeral, if_pos rfl, natural_numeral hs]
  exact congrArg Except.ok hk

end Rewards.Catalog
