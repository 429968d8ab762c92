import Mathlib.Data.List.Nodup
import Mathlib.Data.List.Perm.Subperm
import Rewards.Item
import Rewards.Proofs.Assoc
import Rewards.Proofs.Catalog
import Rewards.Proofs.Outcome
import Rewards.Proofs.Text.Cutting

/-!
Enchantments are a map. They are written by their numbers, and two lists of the same levels are
written in the same way and are read back as the same map.
-/

namespace Rewards

open Text Catalog

namespace Enchantments

/-- Every name is known, and has one level. -/
structure WellFormed (es : Enchantments) : Prop where
  known : ∀ e ∈ es, ∃ k ∈ enchantments, k.name = e.1
  nodup : (es.map (·.1)).Nodup

def idOf (name : Text) : ℕ := ((named? enchantments name).map Key.id).getD 0

def nameOf (id : ℕ) : Text := ((numbered? enchantments id).map Key.name).getD []

theorem nameOf_idOf {e : Text × ℤ} (h : ∃ k ∈ enchantments, k.name = e.1) :
    named? enchantments e.1 = some ⟨idOf e.1, e.1⟩ ∧ nameOf (idOf e.1) = e.1 := by
  obtain ⟨k, hk, he⟩ := h
  obtain ⟨-, h1, h2, -⟩ := enchantments_named k hk
  rw [← he]
  constructor
  · rw [idOf, h1]
    rfl
  · rw [nameOf, idOf, h1, Option.map_some, Option.getD_some, h2]
    rfl

section WellFormed

variable {es : Enchantments} (h : es.WellFormed)

include h

theorem numbered_perm : (numbered es).Perm (es.map fun e => (idOf e.1, e.2)) := by
  have hf : (es.filterMap fun e => (named? enchantments e.1).map fun k => (k.id, e.2)) =
      es.map fun e => (idOf e.1, e.2) := by
    rw [← List.filterMap_eq_map]
    refine List.filterMap_congr fun e he => ?_
    rw [(nameOf_idOf (h.known e he)).1]
    rfl
  rw [numbered, hf]
  exact List.mergeSort_perm _ _

/-- The entries in the order of their numbers. -/
theorem sorted_perm : ((numbered es).map fun p => (nameOf p.1, p.2)).Perm es := by
  refine ((numbered_perm h).map _).trans ?_
  rw [List.map_map]
  refine List.Perm.of_eq ((List.map_congr_left fun e he => ?_).trans (List.map_id es))
  exact Prod.ext (nameOf_idOf (h.known e he)).2 rfl

theorem nodup_numbered : ((numbered es).map (·.1)).Nodup := by
  refine List.Nodup.of_map nameOf ?_
  have := (sorted_perm h).map (·.1)
  rw [List.map_map] at this ⊢
  exact this.symm.nodup h.nodup

theorem WellFormed.perm {ds : Enchantments} (hp : ds.Perm es) : ds.WellFormed :=
  ⟨fun e he => h.known e (hp.mem_iff.1 he), (hp.map (·.1)).symm.nodup h.nodup⟩

end WellFormed

theorem pairwise_numbered (es : Enchantments) :
    (numbered es).Pairwise fun a b => (decide (a.1 ≤ b.1)) = true :=
  List.pairwise_mergeSort (fun a b c hab hbc => by simp only [decide_eq_true_eq] at *; omega)
    (fun a b => by simp only [Bool.or_eq_true, decide_eq_true_eq]; omega) _

/-- The written form does not depend on the order of the entries. -/
theorem numbered_congr {ds es : Enchantments} (h : es.WellFormed) (hp : ds.Perm es) :
    numbered ds = numbered es := by
  have hds := h.perm hp
  refine List.Perm.eq_of_pairwise (fun a b ha hb hab hba => ?_) (pairwise_numbered ds)
    (pairwise_numbered es) ?_
  · have hperm : (numbered ds).Perm (numbered es) :=
      (numbered_perm hds).trans ((hp.map _).trans (numbered_perm h).symm)
    have hid : a.1 = b.1 := by
      simp only [decide_eq_true_eq] at hab hba
      omega
    exact List.inj_on_of_nodup_map (nodup_numbered h) (hperm.mem_iff.1 ha) hb hid
  · exact (numbered_perm hds).trans ((hp.map _).trans (numbered_perm h).symm)

theorem same_of_perm {ds es : Enchantments} (h : es.WellFormed) (hp : ds.Perm es) :
    ds.same es = true := by
  rw [same, Bool.and_eq_true, beq_iff_eq, List.all_eq_true]
  refine ⟨hp.length_eq, fun e he => ?_⟩
  rw [Assoc.lookup_of_mem h.nodup (hp.mem_iff.1 he), beq_self_eq_true]

theorem perm_of_same {ds es : Enchantments} (hds : ds.WellFormed) (h : ds.same es = true) :
    ds.Perm es := by
  rw [same, Bool.and_eq_true, beq_iff_eq, List.all_eq_true] at h
  refine (List.subperm_of_subset hds.nodup.of_map fun e he => ?_).perm_of_length_le h.1.ge
  exact Assoc.mem_of_lookup (eq_of_beq (h.2 e he))

/-- A number and a level. -/
def entryText (p : ℕ × ℤ) : Text := numeral p.1 ++ ':' :: integer p.2

theorem canonical_eq {es : Enchantments} (h : ∀ p ∈ numbered es, IsShort p.2) :
    es.canonical = .ok (joined [';'] ((numbered es).map entryText)) := by
  rw [canonical, Outcome.mapM_eq_each]
  rw [Outcome.each_eq_ok (g := entryText) fun p hp => by rw [written_of_isShort (h p hp)]; rfl]
  rfl

theorem isShort_of_canonical {es : Enchantments} {t : Text} (h : es.canonical = .ok t) :
    ∀ p ∈ numbered es, IsShort p.2 := by
  rw [canonical, Outcome.mapM_eq_each] at h
  obtain ⟨ts, hts, -⟩ := Outcome.bind_eq_ok_iff.1 h
  intro p hp
  obtain ⟨t, -, ht⟩ := Outcome.exists_of_each hts p hp
  obtain ⟨l, hl, -⟩ := Outcome.bind_eq_ok_iff.1 ht
  exact isShort_of_written hl

theorem canonical_congr {ds es : Enchantments} (h : es.WellFormed) (hp : ds.Perm es) :
    ds.canonical = es.canonical := by
  rw [canonical, canonical, numbered_congr h hp]

/-- The characters of written enchantments. -/
def isEntryChar (c : Char) : Bool := isAsciiDigit c || c = ':' || c = '-' || c = ';'

theorem isEntryChar_cases {c : Char} (h : isEntryChar c) :
    isBlank c = false ∧ Token.isParen c = false ∧ c ≠ ',' := by
  simp only [isEntryChar, Bool.or_eq_true, decide_eq_true_eq] at h
  obtain ((h | rfl) | rfl) | rfl := h
  · exact ⟨isBlank_of_isAsciiDigit h, Token.isParen_of_isAsciiDigit h, by rintro rfl; cases h⟩
  all_goals decide

theorem mem_integer_cases {n : ℤ} {c : Char} (h : c ∈ integer n) : isAsciiDigit c ∨ c = '-' := by
  rw [integer] at h
  split at h
  · obtain rfl | h := List.mem_cons.1 h
    · exact .inr rfl
    · exact .inl (isAsciiDigit_of_mem_numeral h)
  · exact .inl (isAsciiDigit_of_mem_numeral h)

theorem mem_entryText_cases {p : ℕ × ℤ} {c : Char} (h : c ∈ entryText p) :
    isAsciiDigit c ∨ c = ':' ∨ c = '-' := by
  obtain h | h := List.mem_append.1 h
  · exact .inl (isAsciiDigit_of_mem_numeral h)
  · obtain rfl | h := List.mem_cons.1 h
    · exact .inr (.inl rfl)
    · obtain h | h := mem_integer_cases h
      · exact .inl h
      · exact .inr (.inr h)

theorem isEntryChar_of_mem {p : ℕ × ℤ} : ∀ c ∈ entryText p, isEntryChar c := by
  intro c hc
  obtain h | rfl | rfl := mem_entryText_cases hc
  · simp [isEntryChar, h]
  all_goals decide

theorem readLevel_integer {n : ℤ} (h : IsShort n) : Item.readLevel (integer n) = .ok n := by
  have hs : natural (numeral n.natAbs) = .ok n.natAbs :=
    natural_numeral (n := n.natAbs) (by rwa [IsShort, Int.natAbs_natCast])
  have hr : Item.readNatural (numeral n.natAbs) = .ok n.natAbs := by
    rw [Item.readNatural, hs]
    rfl
  by_cases hn : n < 0
  · rw [integer, if_pos hn]
    simp only [Item.readLevel, isNumeral_numeral, hr, if_true, bind, Except.bind, pure, Except.pure]
    congr 1
    omega
  · rw [integer, if_neg hn]
    have hd : ∀ c ∈ numeral n.natAbs, isAsciiDigit c := fun c => isAsciiDigit_of_mem_numeral
    have hnum := isNumeral_numeral n.natAbs
    have habs : (n.natAbs : ℤ) = n := by omega
    generalize numeral n.natAbs = ds at *
    rw [Item.readLevel]
    · simp only [hnum, hr, if_true, bind, Except.bind, pure, Except.pure, Bool.false_eq_true,
        if_false, habs]
    · rintro s rfl
      exact absurd (hd '-' (by simp)) (by decide)
    · rintro s rfl
      exact absurd (hd '+' (by simp)) (by decide)

theorem readEnchantment_entryText {k : Key} (hk : k ∈ enchantments) {n : ℤ} (hn : IsShort n) :
    Item.readEnchantment (entryText (k.id, n)) = .ok (k.name, n) := by
  have hp : pieces ':' (entryText (k.id, n)) = [numeral k.id, integer n] := by
    rw [entryText, pieces_append, pieces_of_not_mem]
    · intro h
      obtain h | h := mem_integer_cases h <;> exact absurd h (by decide)
    · intro h
      exact absurd (isAsciiDigit_of_mem_numeral h) (by decide)
  simp only [Item.readEnchantment, hp, enchantment?_numeral hk, readLevel_integer hn]
  rfl

theorem known_of_mem_numbered {es : Enchantments} (h : es.WellFormed) {p : ℕ × ℤ}
    (hp : p ∈ numbered es) : ∃ k ∈ enchantments, k.id = p.1 ∧ k.name = nameOf p.1 := by
  obtain ⟨e, he, rfl⟩ := List.mem_map.1 ((numbered_perm h).mem_iff.1 hp)
  obtain ⟨h1, h2⟩ := nameOf_idOf (h.known e he)
  exact ⟨_, (named?_mem h1).1, rfl, h2.symm⟩

/-- Written enchantments are read in the order of their numbers. -/
theorem readEnchantments_joined {es : Enchantments} (h : es.WellFormed)
    (hs : ∀ p ∈ numbered es, IsShort p.2) :
    Item.readEnchantments (joined [';'] ((numbered es).map entryText)) =
      .ok ((numbered es).map fun p => (nameOf p.1, p.2)) := by
  have hp : ((pieces ';' (joined [';'] ((numbered es).map entryText))).map trim).filter
      (!·.isEmpty) = (numbered es).map entryText := by
    obtain hnil | hne := eq_or_ne (numbered es) []
    · rw [hnil]
      rfl
    · have hsep : ∀ t ∈ (numbered es).map entryText, ';' ∉ t := by
        intro t ht hc
        obtain ⟨p, -, rfl⟩ := List.mem_map.1 ht
        obtain h | h | h := mem_entryText_cases hc <;> exact absurd h (by decide)
      have htrim : ((numbered es).map entryText).map trim = (numbered es).map entryText := by
        rw [List.map_map]
        refine List.map_congr_left fun p hp => trim_of_trimmed (trimmed_of_forall fun c hc => ?_)
        exact (isEntryChar_cases (isEntryChar_of_mem c hc)).1
      rw [pieces_joined hsep (by simpa using hne), htrim, List.filter_eq_self]
      intro t ht
      obtain ⟨p, -, rfl⟩ := List.mem_map.1 ht
      simp [entryText]
  have heach : Outcome.each Item.readEnchantment ((numbered es).map entryText) =
      .ok ((numbered es).map fun p => (nameOf p.1, p.2)) := by
    rw [Outcome.each_map]
    refine Outcome.each_eq_ok fun p hp => ?_
    obtain ⟨k, hk, hid, hname⟩ := known_of_mem_numbered h hp
    have := readEnchantment_entryText hk (hs p hp)
    rwa [hid, hname] at this
  have hnd : (((numbered es).map fun p => (nameOf p.1, p.2)).map (·.1)).Nodup :=
    (h.perm (sorted_perm h)).nodup
  simp only [Item.readEnchantments, hp, heach, bind, Except.bind, pure, Except.pure,
    Assoc.ofList_of_nodup hnd]

end Enchantments

end Rewards
