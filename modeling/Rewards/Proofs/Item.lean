import Rewards.Proofs.Item.Enchantments
import Rewards.Proofs.Opening

/-!
Items read back as they are written, with their enchantments in the order of the numbers.
-/

namespace Rewards.Item

open Text Catalog

/-- Items of the catalog with an amount and a data value that can be read. -/
structure WellFormed (i : Item) : Prop where
  material : i.material ∈ materials
  amount : 1 ≤ i.amount
  data : 0 ≤ i.data
  data_le : i.data ≤ (if i.material = potion then maxPotionData else maxData : ℕ)
  enchantments : i.enchantments.WellFormed

/-- The integers that are written and may be long. -/
def integers (i : Item) : List ℤ := i.data :: i.amount :: i.enchantments.map (·.2)

/-- The material, and the data value and the amount if they are written. -/
def parts (i : Item) : List Text :=
  Item.lowerName i.material :: ((if i.data = 0 then [] else [integer i.data]) ++
    if 1 < i.amount ∨ i.data ≠ 0 then [integer i.amount] else [])

/-- What follows the parts. -/
def tail (es : Enchantments) : Text :=
  if es.numbered = [] then [] else ' ' :: joined [';'] (es.numbered.map Enchantments.entryText)

def text (i : Item) : Text := joined [':'] i.parts ++ tail i.enchantments

/-- The item with its enchantments in the order in which they are written. -/
def sorted (i : Item) : Item := { i with
  enchantments := i.enchantments.numbered.map fun p => (Enchantments.nameOf p.1, p.2) }

theorem sorted_same {i : Item} (h : i.WellFormed) : i.sorted.same i = true := by
  have := Enchantments.same_of_perm h.enchantments (Enchantments.sorted_perm h.enchantments)
  simp [same, sorted, this]

theorem levels_perm {es : Enchantments} (h : es.WellFormed) :
    (es.numbered.map (·.2)).Perm (es.map (·.2)) := by
  have := (Enchantments.numbered_perm h).map (·.2)
  rwa [List.map_map] at this

theorem isShort_numbered {es : Enchantments} (h : es.WellFormed) :
    (∀ p ∈ es.numbered, IsShort p.2) ↔ ∀ n ∈ es.map (·.2), IsShort n := by
  have hm : ∀ n, n ∈ es.numbered.map (·.2) ↔ n ∈ es.map (·.2) := fun n => (levels_perm h).mem_iff
  constructor
  · intro hp n hn
    obtain ⟨p, hmem, rfl⟩ := List.mem_map.1 ((hm n).2 hn)
    exact hp p hmem
  · exact fun hn p hp => hn p.2 ((hm p.2).1 (List.mem_map_of_mem hp))

/-- A number that is written after a colon, or not at all. -/
def marked (p : Prop) [Decidable p] (n : ℤ) : Except Fault Text :=
  if p then (':' :: ·) <$> written n else pure []

theorem canonical_eq_bind (i : Item) : i.canonical = do
    let data ← marked (i.data ≠ 0) i.data
    let amount ← marked (1 < i.amount ∨ i.data ≠ 0) i.amount
    let es ← i.enchantments.canonical
    return Item.lowerName i.material ++ data ++ amount ++ if es.isEmpty then [] else ' ' :: es := by
  rw [canonical, marked, marked]
  by_cases h0 : i.data = 0
  · by_cases h1 : 1 < i.amount
    · simp only [h0, h1, ne_eq, not_true_eq_false, if_true, if_false, true_or, pure_bind]
    · simp only [h0, h1, ne_eq, not_true_eq_false, if_true, if_false, or_self, pure_bind]
  · simp only [h0, ne_eq, not_false_eq_true, if_true, if_false, or_true]

theorem canonical_sorted {i : Item} (h : i.WellFormed) : i.sorted.canonical = i.canonical := by
  have := Enchantments.canonical_congr h.enchantments (Enchantments.sorted_perm h.enchantments)
  rw [canonical_eq_bind, canonical_eq_bind, sorted, this]

theorem marked_eq {p : Prop} [Decidable p] {n : ℤ} (h : IsShort n) :
    marked p n = .ok (if p then ':' :: integer n else []) := by
  rw [marked]
  split
  · rw [written_of_isShort h]
    rfl
  · rfl

theorem isShort_of_marked {p : Prop} [Decidable p] {n : ℤ} {t : Text} (h : marked p n = .ok t)
    (hp : ¬p → IsShort n) : IsShort n := by
  rw [marked] at h
  split at h
  · obtain ⟨s, hs, -⟩ := Outcome.map_eq_ok_iff.1 h
    exact isShort_of_written hs
  · rename_i hn
    exact hp hn

theorem joined_entries_eq_nil_iff {es : Enchantments} :
    joined [';'] (es.numbered.map Enchantments.entryText) = [] ↔ es.numbered = [] := by
  constructor
  · contrapose!
    refine fun h => joined_ne_nil (by simpa using h) fun t ht => ?_
    obtain ⟨p, -, rfl⟩ := List.mem_map.1 ht
    simp [Enchantments.entryText]
  · intro h
    rw [h]
    rfl

theorem canonical_eq {i : Item} (h : i.WellFormed) (hs : ∀ n ∈ i.integers, IsShort n) :
    i.canonical = .ok i.text := by
  rw [integers, List.forall_mem_cons, List.forall_mem_cons] at hs
  obtain ⟨hd, ha, hl⟩ := hs
  have he := Enchantments.canonical_eq ((isShort_numbered h.enchantments).2 hl)
  rw [canonical_eq_bind, marked_eq hd, marked_eq ha, he]
  simp only [bind, Except.bind, pure, Except.pure, text, parts, tail, List.isEmpty_iff,
    joined_entries_eq_nil_iff]
  by_cases h0 : i.data = 0
  · by_cases h1 : 1 < i.amount
    · simp [h0, h1, joined]
    · simp [h0, h1, joined]
  · simp [h0, joined]

theorem isShort_of_canonical {i : Item} (h : i.WellFormed) {t : Text} (ht : i.canonical = .ok t) :
    ∀ n ∈ i.integers, IsShort n := by
  rw [canonical_eq_bind] at ht
  obtain ⟨d, hd, ht⟩ := Outcome.bind_eq_ok_iff.1 ht
  obtain ⟨a, ha, ht⟩ := Outcome.bind_eq_ok_iff.1 ht
  obtain ⟨e, he, -⟩ := Outcome.bind_eq_ok_iff.1 ht
  rw [integers, List.forall_mem_cons, List.forall_mem_cons]
  refine ⟨isShort_of_marked hd fun hn => ?_, isShort_of_marked ha fun hn => ?_,
    (isShort_numbered h.enchantments).1 (Enchantments.isShort_of_canonical he)⟩
  · rw [not_not.1 hn]
    decide
  · rw [show i.amount = 1 by have := h.amount; omega]
    decide

section Reading

theorem readMaterial_lowerName {m : Key} (h : m ∈ materials) :
    readMaterial (Item.lowerName m) = .ok m := by
  rw [readMaterial, material?_lowerName h]
  rfl

theorem readNatural_integer {n : ℤ} (h0 : 0 ≤ n) (h : IsShort n) :
    isNumeral (integer n) = true ∧ readNatural (integer n) = .ok n.toNat := by
  obtain ⟨k, rfl⟩ := Int.eq_ofNat_of_zero_le h0
  rw [integer_natCast, readNatural, natural_numeral h]
  exact ⟨isNumeral_numeral k, rfl⟩

theorem readData_integer {i : Item} (h : i.WellFormed) (hs : IsShort i.data) :
    readData i.material (integer i.data) = .ok i.data.toNat := by
  obtain ⟨h1, h2⟩ := readNatural_integer h.data hs
  have hle := h.data_le
  simp only [readData, h1, h2, if_true, bind, Except.bind, pure, Except.pure]
  rw [if_neg]
  omega

theorem readAmount_integer {i : Item} (h : i.WellFormed) (hs : IsShort i.amount) :
    readAmount (integer i.amount) = .ok i.amount.toNat := by
  have hp := h.amount
  obtain ⟨h1, h2⟩ := readNatural_integer (by omega : 0 ≤ i.amount) hs
  simp only [readAmount, h1, h2, if_true, bind, Except.bind, pure, Except.pure]
  rw [if_neg]
  omega

variable {i : Item} (h : i.WellFormed) (hs : ∀ n ∈ i.integers, IsShort n)

include h

theorem isLowerChar_of_mem_lowerName : ∀ c ∈ Item.lowerName i.material, isLowerChar c :=
  isLowerChar_of_mem_lower (materials_named i.material h.material).1

theorem lowerName_ne_nil : Item.lowerName i.material ≠ [] := by
  have := (materials_named i.material h.material).1.1
  simpa [Item.lowerName] using this

theorem parts_cases : ∀ p ∈ i.parts, p = Item.lowerName i.material ∨
    (p ≠ [] ∧ ∀ c ∈ p, isAsciiDigit c) := by
  have hint : ∀ n : ℤ, 0 ≤ n → integer n ≠ [] ∧ ∀ c ∈ integer n, isAsciiDigit c := by
    intro n hn
    obtain ⟨k, rfl⟩ := Int.eq_ofNat_of_zero_le hn
    rw [integer_natCast]
    exact ⟨numeral_ne_nil k, fun c => isAsciiDigit_of_mem_numeral⟩
  have hd := hint i.data h.data
  have ha := hint i.amount (by have := h.amount; omega)
  intro p hp
  rw [parts, List.mem_cons, List.mem_append] at hp
  obtain hp | hp | hp := hp
  · exact .inl hp
  · split at hp
    · cases hp
    · rw [List.mem_singleton] at hp
      exact .inr (hp ▸ hd)
  · split at hp
    · rw [List.mem_singleton] at hp
      exact .inr (hp ▸ ha)
    · cases hp

theorem mem_parts_cases : ∀ p ∈ i.parts, ∀ c ∈ p, isLowerChar c ∨ isAsciiDigit c := by
  intro p hp c hc
  obtain rfl | ⟨-, hp⟩ := parts_cases h p hp
  · exact .inl (isLowerChar_of_mem_lowerName h c hc)
  · exact .inr (hp c hc)

theorem pieces_parts : pieces ':' (joined [':'] i.parts) = i.parts := by
  refine pieces_joined (fun p hp hc => ?_) (by simp [parts])
  obtain hc | hc := mem_parts_cases h p hp _ hc
  · exact absurd hc (by decide)
  · exact absurd hc (by decide)

include hs

theorem readBase_parts : readBase (joined [':'] i.parts) = .ok { i with enchantments := [] } := by
  rw [integers, List.forall_mem_cons, List.forall_mem_cons] at hs
  obtain ⟨hd, ha, -⟩ := hs
  have hp := pieces_parts h
  have hm := readMaterial_lowerName h.material
  have hrd := readData_integer h hd
  have hra := readAmount_integer h ha
  have h1 := h.amount
  have h2 := h.data
  by_cases h0 : i.data = 0
  · by_cases hc : 1 < i.amount
    · have hparts : i.parts = [Item.lowerName i.material, integer i.amount] := by
        simp [parts, h0, hc]
      rw [readBase, hp, hparts]
      simp only [hm, hra, bind, Except.bind, pure, Except.pure, Except.ok.injEq, Item.mk.injEq,
        true_and, and_true]
      omega
    · have hparts : i.parts = [Item.lowerName i.material] := by
        simp [parts, h0, hc]
      rw [readBase, hp, hparts]
      simp only [hm, bind, Except.bind, pure, Except.pure, Except.ok.injEq, Item.mk.injEq,
        true_and, and_true]
      omega
  · have hparts : i.parts = [Item.lowerName i.material, integer i.data, integer i.amount] := by
      simp [parts, h0]
    rw [readBase, hp, hparts]
    simp only [hm, hra, hrd, bind, Except.bind, pure, Except.pure, Except.ok.injEq, Item.mk.injEq,
      true_and, and_true]
    omega

/-- A written item reads back to the item with its enchantments in order. -/
theorem ofToken_text : ofToken i.text = .ok i.sorted := by
  have hb := readBase_parts h hs
  rw [integers, List.forall_mem_cons, List.forall_mem_cons] at hs
  have hsn := (isShort_numbered h.enchantments).2 hs.2.2
  have hspace : ' ' ∉ joined [':'] i.parts := by
    intro hc
    have := forall_mem_joined (p := fun c => isLowerChar c ∨ isAsciiDigit c ∨ c = ':')
      (by decide) (fun p hp c hc => ?_) _ hc
    · exact absurd this (by decide)
    · obtain h | h := mem_parts_cases h p hp c hc
      · exact .inl h
      · exact .inr (.inl h)
  by_cases h0 : i.enchantments.numbered = []
  · rw [text, tail, if_pos h0, List.append_nil, ofToken, cut_not_mem hspace]
    simp only [hb, bind, Except.bind, sorted, h0]
    rfl
  · have hr := Enchantments.readEnchantments_joined h.enchantments hsn
    have ht : Trimmed (joined [';'] (i.enchantments.numbered.map Enchantments.entryText)) := by
      refine trimmed_of_forall (forall_mem_joined (by decide) fun t ht c hc => ?_)
      obtain ⟨p, -, rfl⟩ := List.mem_map.1 ht
      exact (Enchantments.isEntryChar_cases (Enchantments.isEntryChar_of_mem c hc)).1
    rw [text, tail, if_neg h0, ofToken, cut_append hspace]
    simp only [hb, Option.getD_some, trim_of_trimmed ht, hr, bind, Except.bind]
    rfl

end Reading

/-- The characters of a written item. -/
theorem mem_text_cases {i : Item} (h : i.WellFormed) :
    ∀ c ∈ i.text, isLowerChar c ∨ Enchantments.isEntryChar c ∨ c = ' ' := by
  rw [text]
  refine List.forall_mem_append.2 ⟨?_, ?_⟩
  · refine forall_mem_joined (by decide) fun p hp c hc => ?_
    obtain h | h := mem_parts_cases h p hp c hc
    · exact .inl h
    · exact .inr (.inl (by simp [Enchantments.isEntryChar, h]))
  · rw [tail]
    split
    · simp
    · refine List.forall_mem_cons.2 ⟨.inr (.inr rfl), forall_mem_joined (by decide) ?_⟩
      intro t ht c hc
      obtain ⟨p, -, rfl⟩ := List.mem_map.1 ht
      exact .inr (.inl (Enchantments.isEntryChar_of_mem c hc))

theorem trimmed_text {i : Item} (h : i.WellFormed) : i.text ≠ [] ∧ Trimmed i.text := by
  have hp : ∀ p ∈ i.parts, p ≠ [] ∧ ∀ c ∈ p, isBlank c = false := by
    intro p hp
    refine ⟨?_, fun c hc => ?_⟩
    · obtain rfl | ⟨hne, -⟩ := parts_cases h p hp
      · exact lowerName_ne_nil h
      · exact hne
    · obtain hc | hc := mem_parts_cases h p hp c hc
      · exact (isLowerChar_cases hc).1
      · exact isBlank_of_isAsciiDigit hc
  have hne : joined [':'] i.parts ≠ [] := joined_ne_nil (by simp [parts]) fun p hm => (hp p hm).1
  have hb : ∀ c ∈ joined [':'] i.parts, isBlank c = false :=
    forall_mem_joined (by decide) fun p hm => (hp p hm).2
  rw [text, tail]
  split
  · rw [List.append_nil]
    exact ⟨hne, trimmed_of_forall hb⟩
  · rename_i h0
    have he : ∀ c ∈ joined [';'] (i.enchantments.numbered.map Enchantments.entryText),
        isBlank c = false := by
      refine forall_mem_joined (by decide) fun t ht c hc => ?_
      obtain ⟨p, -, rfl⟩ := List.mem_map.1 ht
      exact (Enchantments.isEntryChar_cases (Enchantments.isEntryChar_of_mem c hc)).1
    refine ⟨by simp, ?_⟩
    have := (trimmed_of_forall hb).append hne (trimmed_of_forall he)
      (joined_entries_eq_nil_iff.not.2 h0) [' ']
    rwa [List.append_assoc, List.singleton_append] at this

/-- After the name of the material stands a colon or a space. -/
theorem text_eq_append (i : Item) : ∃ r, i.text = Item.lowerName i.material ++ r ∧
    ∀ c ∈ r.head?, c = ':' ∨ c = ' ' := by
  rw [text, parts]
  generalize ((if i.data = 0 then [] else [integer i.data]) ++
    if 1 < i.amount ∨ i.data ≠ 0 then [integer i.amount] else [] : List Text) = ps
  cases ps with
  | nil =>
    refine ⟨tail i.enchantments, rfl, ?_⟩
    rw [tail]
    split <;> simp
  | cons p ps =>
    refine ⟨':' :: (joined [':'] (p :: ps) ++ tail i.enchantments), ?_, by simp⟩
    rw [joined_cons (List.cons_ne_nil p ps)]
    simp

/-- A written item is claimed by no keyword. -/
theorem cut_text_not_mem_keywords {i : Item} (h : i.WellFormed) :
    (cut ':' i.text).1 ∉ keywords := by
  obtain ⟨r, hr, hh⟩ := text_eq_append i
  have hcolon : ':' ∉ Item.lowerName i.material := fun hc =>
    (isLowerChar_cases (isLowerChar_of_mem_lowerName h _ hc)).2.2.2.2 rfl
  rw [hr, cut_append_fst hcolon]
  intro hk
  cases r with
  | nil =>
    rw [cut_nil, List.append_nil] at hk
    exact lowerName_not_mem_keywords h.material hk
  | cons c r =>
    obtain rfl | rfl := hh c rfl
    · rw [cut, if_pos rfl, List.append_nil] at hk
      exact lowerName_not_mem_keywords h.material hk
    · rw [cut, if_neg (by decide)] at hk
      exact absurd (isLowerChar_of_mem_keywords _ hk ' ' (by simp)) (by decide)

/-- Equal items have one canonical text. -/
theorem canonical_eq_of_same {i j : Item} (hi : i.WellFormed) (hj : j.WellFormed)
    (h : i.same j = true) : i.canonical = j.canonical := by
  simp only [same, Bool.and_eq_true, beq_iff_eq] at h
  obtain ⟨⟨⟨hm, ha⟩, hd⟩, he⟩ := h
  have := Enchantments.canonical_congr hj.enchantments (Enchantments.perm_of_same hi.enchantments he)
  rw [canonical_eq_bind, canonical_eq_bind, hm, ha, hd, this]

end Rewards.Item
