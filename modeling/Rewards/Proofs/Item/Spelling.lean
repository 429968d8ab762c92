import Rewards.Proofs.Catalog.Spelling
import Rewards.Proofs.Item

/-!
The spellings of an item. The choices of each part are made on their own: keys by number or name,
zeros in front of numbers, parts that may be left out, enchantments in any order with empty entries
and blanks between them. All spellings of an item are read as the item.
-/

namespace Rewards

open Text Catalog

namespace Item

/-- A number, or the colour of the number. -/
def SpellsData (data : ℤ) (t : Text) : Prop :=
  SpellsNumber data.toNat t ∨ ∃ k ∈ dyes, k.id = data ∧ SpellsName ['_', '-'] k.name t

/-- Digits behind a sign, which may be left out if it is not a minus. -/
inductive SpellsLevel (level : ℤ) : Text → Prop where
  | bare {ds : Text} : 0 ≤ level → SpellsNumber level.natAbs ds → SpellsLevel level ds
  | plus {ds : Text} : 0 ≤ level → SpellsNumber level.natAbs ds → SpellsLevel level ('+' :: ds)
  | minus {ds : Text} : level ≤ 0 → SpellsNumber level.natAbs ds → SpellsLevel level ('-' :: ds)

/-- An amount is written behind a data value, and a data value if it is not 0. -/
inductive SpellsBase (i : Item) : Text → Prop where
  | material {m : Text} : i.data = 0 → i.amount = 1 → SpellsKey ['_', '-'] i.material m →
      SpellsBase i m
  | amount {m a : Text} : i.data = 0 → SpellsKey ['_', '-'] i.material m →
      SpellsNumber i.amount.toNat a → SpellsBase i (m ++ ':' :: a)
  | data {m d a : Text} : SpellsKey ['_', '-'] i.material m → SpellsData i.data d →
      SpellsNumber i.amount.toNat a → SpellsBase i (m ++ ':' :: (d ++ ':' :: a))

def SpellsEntry (e : Text × ℤ) (t : Text) : Prop :=
  ∃ k ∈ Catalog.enchantments, k.name = e.1 ∧
    ∃ a l, t = a ++ ':' :: l ∧ SpellsKey separators k a ∧ SpellsLevel e.2 l

/-- Entries with blanks around them, and empty ones between them. -/
inductive SpellsEntries : Enchantments → List Text → Prop where
  | nil : SpellsEntries [] []
  | blank {es : Enchantments} {s : Text} {ss : List Text} : (∀ c ∈ s, isBlank c) →
      SpellsEntries es ss → SpellsEntries es (s :: ss)
  | entry {e : Text × ℤ} {es : Enchantments} {l s r : Text} {ss : List Text} :
      (∀ c ∈ l, isBlank c) → SpellsEntry e s → (∀ c ∈ r, isBlank c) → SpellsEntries es ss →
      SpellsEntries (e :: es) ((l ++ (s ++ r)) :: ss)

/-- The texts that denote an item. Its enchantments are written in any order. -/
inductive Spells (i : Item) : Text → Prop where
  | plain {t : Text} : i.enchantments = [] → SpellsBase i t → Spells i t
  | enchanted {t : Text} {es : Enchantments} {ss : List Text} : es.Perm i.enchantments →
      SpellsBase i t → SpellsEntries es ss → Spells i (t ++ ' ' :: joined [';'] ss)

section Base

theorem readNatural_of_spells {n : ℕ} {t : Text} (h : SpellsNumber n t) :
    readNatural t = .ok n := by
  rw [readNatural, h.natural]
  rfl

theorem readMaterial_of_spells {k : Key} (hk : k ∈ materials) {t : Text}
    (h : SpellsKey ['_', '-'] k t) : readMaterial t = .ok k := by
  rw [readMaterial, material?_of_spells hk h]
  rfl

theorem SpellsData.isSpelled {d : ℤ} {t : Text} (h : SpellsData d t) : IsSpelled ['_', '-'] t := by
  obtain h | ⟨k, hk, -, h⟩ := h
  · exact h.isSpelled _
  · exact fun c hc => .inr (h.mem (dyes_named k hk) c hc)

variable {i : Item} (hi : i.WellFormed)

include hi

theorem readData_of_spells {t : Text} (h : SpellsData i.data t) :
    readData i.material t = .ok i.data.toNat := by
  obtain h | ⟨k, hk, hid, h⟩ := h
  · have hle := hi.data_le
    have h0 := hi.data
    simp only [readData, h.isNumeral, readNatural_of_spells h, if_true, bind, Except.bind, pure,
      Except.pure]
    rw [if_neg]
    omega
  · obtain ⟨hn, hd⟩ := dye?_of_spells hk h
    simp only [readData, hn, hd, Bool.false_eq_true, if_false, ← hid, Int.toNat_natCast]
    rfl

theorem readAmount_of_spells {t : Text} (h : SpellsNumber i.amount.toNat t) :
    readAmount t = .ok i.amount.toNat := by
  have hp := hi.amount
  simp only [readAmount, h.isNumeral, readNatural_of_spells h, if_true, bind, Except.bind, pure,
    Except.pure]
  rw [if_neg]
  omega

theorem readBase_of_spells {t : Text} (h : SpellsBase i t) :
    readBase t = .ok { i with enchantments := [] } := by
  have hkey : ∀ {m : Text}, SpellsKey ['_', '-'] i.material m → ':' ∉ m := fun hm =>
    (hm.isSpelled (materials_named _ hi.material).1).not_mem (by decide) (by decide)
  have hnum : ∀ {a : Text}, SpellsNumber i.amount.toNat a → ':' ∉ a := fun ha =>
    (ha.isSpelled []).not_mem (by decide) (by decide)
  have hd0 := hi.data
  have ha0 : 0 ≤ i.amount := by have := hi.amount; omega
  obtain ⟨hd, ha, hm⟩ | @⟨m, a, hd, hm, ha⟩ | @⟨m, d, a, hm, hd, ha⟩ := h
  · rw [readBase, pieces_of_not_mem (hkey hm)]
    simp only [readMaterial_of_spells hi.material hm, bind, Except.bind, pure, Except.pure, ← hd,
      ← ha]
  · have hp : pieces ':' (m ++ ':' :: a) = [m, a] := by
      rw [pieces_append (hkey hm), pieces_of_not_mem (hnum ha)]
    rw [readBase, hp]
    simp only [readMaterial_of_spells hi.material hm, readAmount_of_spells hi ha, bind, Except.bind,
      pure, Except.pure, ← hd, Int.toNat_of_nonneg ha0]
  · have hcolon := hd.isSpelled.not_mem (m := ':') (by decide) (by decide)
    have hp : pieces ':' (m ++ ':' :: (d ++ ':' :: a)) = [m, d, a] := by
      rw [pieces_append (hkey hm), pieces_append hcolon, pieces_of_not_mem (hnum ha)]
    rw [readBase, hp]
    simp only [readMaterial_of_spells hi.material hm, readData_of_spells hi hd,
      readAmount_of_spells hi ha, bind, Except.bind, pure, Except.pure, Int.toNat_of_nonneg hd0,
      Int.toNat_of_nonneg ha0]

/-- No blank is in front of the enchantments. -/
theorem SpellsBase.mem {t : Text} (h : SpellsBase i t) : t ≠ [] ∧ ∀ c ∈ t, isBlank c = false := by
  have hblank : ∀ {t : Text}, IsSpelled ['_', '-'] t → ∀ c ∈ t, isBlank c = false :=
    fun ht => ht.isBlank (by decide)
  have hn := (materials_named i.material hi.material).1
  obtain ⟨-, -, hm⟩ | @⟨m, a, -, hm, ha⟩ | @⟨m, d, a, hm, hd, ha⟩ := h
  · exact ⟨hm.ne_nil hn, hblank (hm.isSpelled hn)⟩
  · refine ⟨by simp, List.forall_mem_append.2 ⟨hblank (hm.isSpelled hn), ?_⟩⟩
    exact List.forall_mem_cons.2 ⟨by decide, hblank (ha.isSpelled _)⟩
  · refine ⟨by simp, List.forall_mem_append.2 ⟨hblank (hm.isSpelled hn), ?_⟩⟩
    refine List.forall_mem_cons.2 ⟨by decide, List.forall_mem_append.2 ⟨hblank hd.isSpelled, ?_⟩⟩
    exact List.forall_mem_cons.2 ⟨by decide, hblank (ha.isSpelled _)⟩

end Base

section Entries

theorem readLevel_of_spells {n : ℤ} {t : Text} (h : SpellsLevel n t) : readLevel t = .ok n := by
  obtain ⟨hn, hd⟩ | ⟨hn, hd⟩ | ⟨hn, hd⟩ := h
  · rw [readLevel]
    · simp only [hd.isNumeral, readNatural_of_spells hd, if_true, bind, Except.bind, pure,
        Except.pure, Bool.false_eq_true, if_false, Int.natAbs_of_nonneg hn]
    · rintro s rfl
      exact absurd (hd.digits '-' (by simp)) (by decide)
    · rintro s rfl
      exact absurd (hd.digits '+' (by simp)) (by decide)
  · simp only [readLevel, hd.isNumeral, readNatural_of_spells hd, if_true, bind, Except.bind, pure,
      Except.pure, Bool.false_eq_true, if_false, Int.natAbs_of_nonneg hn]
  · simp only [readLevel, hd.isNumeral, readNatural_of_spells hd, if_true, bind, Except.bind, pure,
      Except.pure, Int.ofNat_natAbs_of_nonpos hn, neg_neg]

theorem SpellsLevel.ne_nil {n : ℤ} {t : Text} (h : SpellsLevel n t) : t ≠ [] := by
  obtain ⟨-, hd⟩ | - | - := h
  · exact hd.ne_nil
  all_goals exact List.cons_ne_nil _ _

theorem SpellsLevel.isSpelled {n : ℤ} {t : Text} (h : SpellsLevel n t) : IsSpelled ['+', '-'] t := by
  obtain ⟨-, hd⟩ | ⟨-, hd⟩ | ⟨-, hd⟩ := h
  · exact hd.isSpelled _
  · exact List.forall_mem_cons.2 ⟨by simp, hd.isSpelled _⟩
  · exact List.forall_mem_cons.2 ⟨by simp, hd.isSpelled _⟩

variable {e : Text × ℤ} {t : Text} (h : SpellsEntry e t)

include h

theorem readEnchantment_of_spells : readEnchantment t = .ok e := by
  obtain ⟨k, hk, hname, a, l, rfl, ha, hl⟩ := h
  have hca := (ha.isSpelled (enchantments_named k hk).1).not_mem (m := ':') (by decide) (by decide)
  have hcl := hl.isSpelled.not_mem (m := ':') (by decide) (by decide)
  rw [readEnchantment, pieces_append hca, pieces_of_not_mem hcl]
  simp only [enchantment?_of_spells hk ha, readLevel_of_spells hl, Except.mapError, bind, Except.bind,
    pure, Except.pure, hname]

theorem SpellsEntry.trimmed : t ≠ [] ∧ Trimmed t := by
  obtain ⟨k, hk, -, a, l, rfl, ha, hl⟩ := h
  have hn := (enchantments_named k hk).1
  refine ⟨by simp, ?_⟩
  have hlt : Trimmed l := trimmed_of_forall (hl.isSpelled.isBlank (by decide))
  have := (ha.trimmed hn (enchantments_bare k hk)).append (ha.ne_nil hn) hlt hl.ne_nil [':']
  rwa [List.append_assoc, List.singleton_append] at this

theorem SpellsEntry.not_mem : ';' ∉ t := by
  obtain ⟨k, hk, -, a, l, rfl, ha, hl⟩ := h
  have hca := (ha.isSpelled (enchantments_named k hk).1).not_mem (m := ';') (by decide) (by decide)
  have hcl := hl.isSpelled.not_mem (m := ';') (by decide) (by decide)
  simp [hca, hcl]

end Entries

theorem SpellsEntries.not_mem {es : Enchantments} {ss : List Text} (h : SpellsEntries es ss) :
    ∀ s ∈ ss, ';' ∉ s := by
  have hblank : ∀ {s : Text}, (∀ c ∈ s, isBlank c) → ';' ∉ s := fun hs hc =>
    absurd (hs ';' hc) (by decide)
  induction h with
  | nil => simp
  | blank hs _ ih => exact List.forall_mem_cons.2 ⟨hblank hs, ih⟩
  | entry hl he hr _ ih =>
    exact List.forall_mem_cons.2 ⟨by simp [hblank hl, he.not_mem, hblank hr], ih⟩

/-- Empty entries are left out, and the others are read in their order. -/
theorem SpellsEntries.each {es : Enchantments} {ss : List Text} (h : SpellsEntries es ss) :
    Outcome.each readEnchantment ((ss.map trim).filter (!·.isEmpty)) = .ok es := by
  induction h with
  | nil => rfl
  | @blank es s ss hs _ ih =>
    have ht : trim s = [] := by
      have := trim_blank_append hs []
      rwa [List.append_nil] at this
    rw [List.map_cons, ht, List.filter_cons_of_neg (by simp), ih]
  | @entry e es l s r ss hl he hr _ ih =>
    obtain ⟨hne, ht⟩ := he.trimmed
    rw [List.map_cons, trim_append hl ht hr, List.filter_cons_of_pos (by simpa using hne), Outcome.each,
      readEnchantment_of_spells he, ih]
    rfl

theorem readEnchantments_of_spells {es : Enchantments} (hn : (es.map (·.1)).Nodup) {ss : List Text}
    (h : SpellsEntries es ss) : readEnchantments (trim (joined [';'] ss)) = .ok es := by
  have hp : ((pieces ';' (joined [';'] ss)).map trim).filter (!·.isEmpty) =
      (ss.map trim).filter (!·.isEmpty) := by
    obtain rfl | hne := eq_or_ne ss []
    · rfl
    · rw [pieces_joined h.not_mem hne]
  simp only [readEnchantments, map_trim_pieces_trim (by decide : isBlank ';' = false), hp, h.each,
    bind, Except.bind, pure, Except.pure, Assoc.ofList_of_nodup hn]

variable {i : Item} (hi : i.WellFormed)

include hi

theorem read_of_ofToken {t s : Text} (ht : SpellsBase i t) {j : Item}
    (h : ofToken (trim (t ++ s)) = .ok j) : Item.read (some (t ++ s)) = .ok j := by
  obtain ⟨hne, hblank⟩ := ht.mem hi
  obtain ⟨c, t, rfl⟩ := List.exists_cons_of_ne_nil hne
  have hc : c ∈ trim (c :: t ++ s) := mem_trim (hblank c List.mem_cons_self) (by simp)
  rw [Item.read, Option.getD_some]
  exact (if_neg (by simpa using List.ne_nil_of_mem hc)).trans h

theorem read_plain {t : Text} (ht : SpellsBase i t) :
    Item.read (some t) = .ok { i with enchantments := [] } := by
  have hblank := (ht.mem hi).2
  have h : ofToken (trim (t ++ [])) = .ok { i with enchantments := [] } := by
    rw [List.append_nil, trim_of_trimmed (trimmed_of_forall hblank), ofToken,
      cut_not_mem fun hc => absurd (hblank ' ' hc) (by decide)]
    simp only [readBase_of_spells hi ht, bind, Except.bind]
    rfl
  rw [← List.append_nil t]
  exact read_of_ofToken hi ht h

theorem read_enchanted {t : Text} (ht : SpellsBase i t) {es : Enchantments}
    (hn : (es.map (·.1)).Nodup) {ss : List Text} (hs : SpellsEntries es ss) :
    Item.read (some (t ++ ' ' :: joined [';'] ss)) = .ok { i with enchantments := es } := by
  obtain ⟨hne, hblank⟩ := ht.mem hi
  obtain ⟨o, ho, htrim⟩ := cut_trim hblank hne (joined [';'] ss)
  refine read_of_ofToken hi ht ?_
  simp only [ofToken, ho, readBase_of_spells hi ht, htrim, readEnchantments_of_spells hn hs, bind,
    Except.bind, pure, Except.pure]

/-- Every spelling of an item is read as the item. -/
theorem spellings_denote {t : Text} (h : Spells i t) :
    ∃ es, es.Perm i.enchantments ∧ Item.read (some t) = .ok { i with enchantments := es } ∧
      same { i with enchantments := es } i = true := by
  have hsame : ∀ {es : Enchantments}, es.Perm i.enchantments →
      same { i with enchantments := es } i = true := by
    intro es hp
    simp [same, Enchantments.same_of_perm hi.enchantments hp]
  cases h with
  | plain he ht =>
    have hp : ([] : Enchantments).Perm i.enchantments := by rw [he]
    exact ⟨[], hp, read_plain hi ht, hsame hp⟩
  | @enchanted t es ss hp ht hs =>
    have hn := (hp.map (·.1)).symm.nodup hi.enchantments.nodup
    exact ⟨es, hp, read_enchanted hi ht hn hs, hsame hp⟩

omit hi

/-- Red wool with two enchantments. -/
def redWool : Item := ⟨wool, 5, 1, [("DAMAGE_ALL", -2), ("FIRE_ASPECT", 3)]⟩

theorem redWool_spelled : ∃ es, es.Perm redWool.enchantments ∧
    Item.read (some "0035:RED:005  ; ;fire ASPECT:+003; 016:-2 ;;") =
      .ok { redWool with enchantments := es } ∧
    same { redWool with enchantments := es } redWool = true := by
  have hw : redWool.WellFormed := by
    refine ⟨by decide, by decide, by decide, by decide, ?_, by decide⟩
    decide
  have hfire : SpellsEntry ("FIRE_ASPECT", 3) "fire ASPECT:+003" := by
    refine ⟨⟨20, "FIRE_ASPECT"⟩, by decide, rfl, "fire ASPECT", "+003", by decide, .inr ?_,
      .plus (by decide) ⟨⟨2, by decide⟩, by decide⟩⟩
    simp [SpellsName, SpellsChar, separators]
  have hdamage : SpellsEntry ("DAMAGE_ALL", -2) "016:-2" :=
    ⟨⟨16, "DAMAGE_ALL"⟩, by decide, rfl, "016", "-2", by decide, .inl ⟨⟨1, by decide⟩, by decide⟩,
      .minus (by decide) ⟨⟨0, by decide⟩, by decide⟩⟩
  have hs : SpellsEntries [("FIRE_ASPECT", 3), ("DAMAGE_ALL", -2)]
      [" ", " ", "fire ASPECT:+003", " 016:-2 ", [], []] :=
    .blank (by decide) <| .blank (by decide) <| .entry (l := []) (r := []) (by simp) hfire (by simp) <|
      .entry (l := [' ']) (r := [' ']) (by decide) hdamage (by decide) <|
        .blank (by simp) <| .blank (by simp) .nil
  have hbase : SpellsBase redWool "0035:RED:005" := by
    refine .data (m := "0035") (d := "RED") (a := "005") (.inl ⟨⟨2, by decide⟩, by decide⟩)
      (.inr ⟨⟨1, "RED"⟩, by decide, by decide, ?_⟩) ⟨⟨2, by decide⟩, by decide⟩
    simp [SpellsName, SpellsChar]
  exact spellings_denote hw (.enchanted (List.Perm.swap _ _ _) hbase hs)

end Item

end Rewards
