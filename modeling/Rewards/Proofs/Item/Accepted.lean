import Rewards.Proofs.Item

/-!
Accepted items are well-formed. The tokens that stand for them have no characters but those of names,
numbers and the syntax of items, and so neither parentheses nor commas.
-/

namespace Rewards.Item

open Text Catalog Token

theorem material?_of_readMaterial {t : Text} {m : Key} (h : readMaterial t = .ok m) :
    material? t = .ok (some m) := by
  obtain ⟨k, hk, h⟩ := Outcome.bind_eq_ok_iff.1 h
  rw [Outcome.mapError_eq_ok_iff] at hk
  cases k with
  | none => cases h
  | some k =>
    cases h
    exact hk

theorem readData_cases {m : Key} {t : Text} {n : ℕ} (h : readData m t = .ok n) :
    n ≤ (if m = potion then maxPotionData else maxData) ∧
      (isNumeral t = true ∨ ∃ d, dye? t = some d) := by
  rw [readData] at h
  split at h
  · rename_i hnum
    refine ⟨?_, .inl hnum⟩
    obtain ⟨k, hk, h⟩ := Outcome.bind_eq_ok_iff.1 h
    generalize (if m = potion then maxPotionData else maxData) = limit at *
    split at h <;> cases h
    omega
  · split at h
    · rename_i d hd
      cases h
      have hle : ∀ d ∈ dyes, d.id ≤ maxData := by decide
      have hd' := hle d (named?_mem hd).1
      refine ⟨?_, .inr ⟨d, hd⟩⟩
      split
      · exact hd'.trans (by decide)
      · exact hd'
    · cases h

theorem readAmount_cases {t : Text} {n : ℕ} (h : readAmount t = .ok n) :
    1 ≤ n ∧ isNumeral t = true := by
  rw [readAmount] at h
  split at h
  · rename_i hnum
    refine ⟨?_, hnum⟩
    obtain ⟨k, hk, h⟩ := Outcome.bind_eq_ok_iff.1 h
    split at h
    · cases h
    · cases h
      omega
  · cases h

/-- The parts of a base, each of which is read. -/
theorem readBase_cases {t : Text} {i : Item} (h : readBase t = .ok i) :
    i.material ∈ materials ∧ 1 ≤ i.amount ∧ 0 ≤ i.data ∧
      i.data ≤ (if i.material = potion then maxPotionData else maxData : ℕ) ∧
      ∀ p ∈ pieces ':' t, material? p = .ok (some i.material) ∨ isNumeral p = true ∨
        ∃ d, dye? p = some d := by
  rw [readBase] at h
  split at h
  · rename_i m hs
    obtain ⟨k, hk, h⟩ := Outcome.bind_eq_ok_iff.1 h
    cases h
    have hm := material?_of_readMaterial hk
    rw [hs, List.forall_mem_singleton]
    exact ⟨find?_mem hm, le_rfl, le_rfl, Int.natCast_nonneg _, .inl hm⟩
  · rename_i m a hs
    obtain ⟨k, hk, h⟩ := Outcome.bind_eq_ok_iff.1 h
    obtain ⟨n, hn, h⟩ := Outcome.bind_eq_ok_iff.1 h
    cases h
    have hm := material?_of_readMaterial hk
    obtain ⟨hn, ha⟩ := readAmount_cases hn
    rw [hs, List.forall_mem_cons, List.forall_mem_singleton]
    exact ⟨find?_mem hm, Int.ofNat_le.2 hn, le_rfl, Int.natCast_nonneg _, .inl hm, .inr (.inl ha)⟩
  · rename_i m d a hs
    obtain ⟨k, hk, h⟩ := Outcome.bind_eq_ok_iff.1 h
    obtain ⟨x, hx, h⟩ := Outcome.bind_eq_ok_iff.1 h
    obtain ⟨n, hn, h⟩ := Outcome.bind_eq_ok_iff.1 h
    cases h
    have hm := material?_of_readMaterial hk
    obtain ⟨hn, ha⟩ := readAmount_cases hn
    obtain ⟨hx, hd⟩ := readData_cases hx
    rw [hs, List.forall_mem_cons, List.forall_mem_cons, List.forall_mem_singleton]
    exact ⟨find?_mem hm, Int.ofNat_le.2 hn, Int.natCast_nonneg _, Int.ofNat_le.2 hx, .inl hm,
      .inr hd, .inr (.inl ha)⟩
  · cases h

theorem isNumeral_of_readLevel {t : Text} {n : ℤ} (h : readLevel t = .ok n) :
    ∃ s ds, t = s ++ ds ∧ s ∈ [[], ['+'], ['-']] ∧ isNumeral ds = true := by
  have hnum : ∀ {digits : Text} {negative : Bool}, (do
      if isNumeral digits then
        let n ← readNatural digits
        return if negative then -(n : ℤ) else n
      else refuse .level t) = .ok n → isNumeral digits = true := by
    intro digits negative h
    split at h
    · assumption
    · cases h
  unfold readLevel at h
  split at h
  rename_i negative digits hm
  split at hm <;> cases hm
  · exact ⟨['-'], _, rfl, by simp, hnum h⟩
  · exact ⟨['+'], _, rfl, by simp, hnum h⟩
  · exact ⟨[], _, rfl, by simp, hnum h⟩

theorem readEnchantment_cases {t : Text} {e : Text × ℤ} (h : readEnchantment t = .ok e) :
    ∃ k ∈ Catalog.enchantments, k.name = e.1 ∧ ∃ x l, pieces ':' t = [x, l] ∧
      enchantment? x = .ok (some k) ∧ readLevel l = .ok e.2 := by
  rw [readEnchantment] at h
  split at h
  · rename_i x l hs
    obtain ⟨k, hk, h⟩ := Outcome.bind_eq_ok_iff.1 h
    rw [Outcome.mapError_eq_ok_iff] at hk
    cases k with
    | none => cases h
    | some k =>
      obtain ⟨n, hn, h⟩ := Outcome.bind_eq_ok_iff.1 h
      cases h
      exact ⟨k, find?_mem hk, rfl, x, l, hs, hk, hn⟩
  · cases h

theorem readEnchantments_cases {t : Text} {es : Enchantments} (h : readEnchantments t = .ok es) :
    es.WellFormed ∧ ∀ p ∈ pieces ';' t, trim p = [] ∨ ∃ e, readEnchantment (trim p) = .ok e := by
  obtain ⟨ds, hds, h⟩ := Outcome.bind_eq_ok_iff.1 h
  cases h
  have heach := Outcome.exists_of_each hds
  refine ⟨⟨fun e he => ?_, Assoc.nodup_ofList ds⟩, fun p hp => ?_⟩
  · obtain ⟨d, hd, hde⟩ := List.mem_map.1 (Assoc.mem_keys_ofList.1 (List.mem_map_of_mem he))
    obtain ⟨a, ha, hr⟩ := Outcome.exists_of_mem_each hds d hd
    obtain ⟨k, hk, hname, -⟩ := readEnchantment_cases hr
    exact ⟨k, hk, hname.trans hde⟩
  · by_cases hne : trim p = []
    · exact .inl hne
    · have hm : trim p ∈ ((pieces ';' t).map trim).filter (!·.isEmpty) := by
        rw [List.mem_filter]
        exact ⟨List.mem_map_of_mem hp, by simpa using hne⟩
      obtain ⟨e, -, he⟩ := heach _ hm
      exact .inr ⟨e, he⟩

section Characters

/-- A character that no name, no number and no mark between them is. -/
def IsOutside (c : Char) : Prop := IsForeign c ∧ c ∉ ":;+".toList

instance (c : Char) : Decidable (IsOutside c) := inferInstanceAs (Decidable (_ ∧ _))

variable {c : Char} (hc : IsOutside c) {t : Text}

include hc

theorem IsOutside.not_mem_of_readBase {i : Item} (h : readBase t = .ok i) : c ∉ t := by
  intro hm
  have hcolon : c ≠ ':' := fun he => hc.2 (by simp [he])
  obtain ⟨p, hp, hm⟩ := exists_mem_pieces hcolon hm
  obtain ⟨-, -, -, -, hparts⟩ := readBase_cases h
  obtain hk | hn | ⟨d, hd⟩ := hparts p hp
  · exact hc.1.not_mem_of_find? (fun k hk => (materials_named k hk).1) hk hm
  · exact hc.1.not_mem_of_isNumeral hn hm
  · exact hc.1.not_mem_of_named? dyes_named hd hm

theorem IsOutside.not_mem_of_readLevel {n : ℤ} (h : readLevel t = .ok n) : c ∉ t := by
  obtain ⟨s, ds, rfl, hs, hn⟩ := isNumeral_of_readLevel h
  have hplus : c ≠ '+' := fun he => hc.2 (by simp [he])
  have hminus : c ≠ '-' := fun he => hc.1.2.2.2.2 (.inr he)
  have hsign : c ∉ s := by
    obtain rfl | rfl | rfl : s = [] ∨ s = ['+'] ∨ s = ['-'] := by simpa using hs
    · exact List.not_mem_nil
    · simpa using hplus
    · simpa using hminus
  rw [List.mem_append, not_or]
  exact ⟨hsign, hc.1.not_mem_of_isNumeral hn⟩

theorem IsOutside.not_mem_of_readEnchantment {e : Text × ℤ} (h : readEnchantment t = .ok e) :
    c ∉ t := by
  intro hm
  have hcolon : c ≠ ':' := fun he => hc.2 (by simp [he])
  obtain ⟨p, hp, hm⟩ := exists_mem_pieces hcolon hm
  obtain ⟨k, -, -, x, l, hxl, hx, hl⟩ := readEnchantment_cases h
  rw [hxl] at hp
  obtain rfl | rfl : p = x ∨ p = l := by simpa using hp
  · exact hc.1.not_mem_of_find? (fun k hk => (enchantments_named k hk).1) hx hm
  · exact hc.not_mem_of_readLevel hl hm

theorem IsOutside.not_mem_of_readEnchantments {es : Enchantments}
    (h : readEnchantments t = .ok es) : c ∉ t := by
  intro hm
  have hsemicolon : c ≠ ';' := fun he => hc.2 (by simp [he])
  obtain ⟨p, hp, hm⟩ := exists_mem_pieces hsemicolon hm
  replace hm := mem_trim hc.1.1 hm
  obtain hnil | ⟨e, he⟩ := (readEnchantments_cases h).2 p hp
  · rw [hnil] at hm
    cases hm
  · exact hc.not_mem_of_readEnchantment he hm

theorem IsOutside.not_mem_of_ofToken {i : Item} (h : ofToken t = .ok i) : c ∉ t := by
  obtain ⟨base, hb, h⟩ := Outcome.bind_eq_ok_iff.1 h
  obtain ⟨es, he, -⟩ := Outcome.bind_eq_ok_iff.1 h
  have hspace : c ≠ ' ' := fun he => hc.1.2.2.2.2 (.inl he)
  obtain ⟨-, hcut⟩ | ⟨a, b, rfl, -, hcut⟩ := cut_cases ' ' t
  · rw [hcut] at hb
    exact hc.not_mem_of_readBase hb
  · rw [hcut] at hb he
    have hmb : c ∉ b := fun hm => hc.not_mem_of_readEnchantments he (mem_trim hc.1.1 hm)
    simp [hc.not_mem_of_readBase hb, hspace, hmb]

end Characters

theorem isOutside_of_mem_marks : ∀ c ∈ marks, IsOutside c := by decide +kernel

theorem isOutside_comma : IsOutside ',' := by decide +kernel

/-- An accepted item is well-formed, and its token has no parentheses. -/
theorem ofToken_cases {t : Text} {i : Item} (h : ofToken t = .ok i) :
    i.WellFormed ∧ parens t = [] := by
  refine ⟨?_, parens_of_marks fun c hc => (isOutside_of_mem_marks c hc).not_mem_of_ofToken h⟩
  obtain ⟨base, hb, h⟩ := Outcome.bind_eq_ok_iff.1 h
  obtain ⟨es, he, h⟩ := Outcome.bind_eq_ok_iff.1 h
  cases h
  obtain ⟨hm, ha, hd, hle, -⟩ := readBase_cases hb
  exact ⟨hm, ha, hd, hle, (readEnchantments_cases he).1⟩

end Rewards.Item
