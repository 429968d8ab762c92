import Rewards.Proofs.Currency
import Rewards.Proofs.Dispatch
import Rewards.Proofs.Effect
import Rewards.Proofs.Item

/-!
Single things read back as they are written. Each is written as a token that only its own kind
claims, and the token stands for an equal thing.
-/

namespace Rewards.Leaf

open Text Token

/-- Things that the built-in kinds can read: a finite amount, a node without commas, an effect or
an item of the catalog. -/
def WellFormed : Leaf → Prop
  | currency x => (Decimal.Binary.ofFloat x).isFinite
  | permission node => Plain node
  | effect e => e.WellFormed
  | item i => i.WellFormed
  | stack _ => False
  | custom _ => False

/-- The integers that are written and may be long. -/
def integers : Leaf → List ℤ
  | effect e => e.integers
  | item i => i.integers
  | _ => []

theorem exists_canonical {l : Leaf} (h : l.WellFormed) (hs : ∀ n ∈ l.integers, IsShort n) :
    ∃ t, l.canonical = .ok t := by
  cases l with
  | currency x =>
    obtain ⟨b, -, hb, -⟩ := Currency.ofBody_canonical h
    exact ⟨_, hb⟩
  | permission node => exact ⟨_, rfl⟩
  | effect e => exact ⟨_, (Effect.canonical_eq e).trans (if_pos hs)⟩
  | item i => exact ⟨_, Item.canonical_eq h hs⟩
  | stack s => exact h.elim
  | custom c => exact h.elim

theorem isShort_of_canonical {l : Leaf} (h : l.WellFormed) {t : Text} (ht : l.canonical = .ok t) :
    ∀ n ∈ l.integers, IsShort n := by
  cases l with
  | effect e =>
    by_contra hs
    cases ht.symm.trans ((Effect.canonical_eq e).trans (if_neg hs))
  | item i => exact Item.isShort_of_canonical h ht
  | stack s => exact h.elim
  | custom c => exact h.elim
  | _ => exact fun n hn => absurd hn List.not_mem_nil

/-- A token outside parentheses that stands for something equal to `l` and written the same. -/
structure ReadsBack (t : Text) (l : Leaf) : Prop where
  plain : Plain t
  head : ∀ c ∈ t.head?, isParen c = false
  reads : ∃ l', ofToken t = .ok l' ∧ l'.same l = true ∧ l'.canonical = .ok t

theorem readsBack_currency {x : Float} (h : (currency x).WellFormed) {t : Text}
    (ht : (currency x).canonical = .ok t) : ReadsBack t (currency x) := by
  obtain ⟨b, y, hc, hb, hy, he⟩ := Currency.ofBody_canonical h
  obtain rfl : _ = t := Except.ok.inj (hc.symm.trans ht)
  have hne : b ≠ [] := by
    rintro rfl
    cases hy
  have hcomma : ',' ∉ b := fun hm => absurd (hb _ hm) (by decide)
  have hbody : Currency.opening.body? ('$' :: b) = some b :=
    Opening.body?_symbol rfl (Opening.isBody_iff.2 ⟨hne, hcomma⟩)
  refine ⟨⟨List.cons_ne_nil _ _, trimmed_of_forall ?_, ?_⟩, by simp; decide, currency y, ?_, he, ?_⟩
  · exact List.forall_mem_cons.2
      ⟨by decide, fun c hc => Currency.isBlank_of_isNumberChar (hb c hc)⟩
  · rw [List.mem_cons, not_or]
    exact ⟨by decide, hcomma⟩
  · rw [ofToken, hbody]
    simp only [hy]
    rfl
  · have hfy := Currency.isFinite_of_ofBody hy
    exact (Currency.canonical_eq_of_beq hfy h he).trans hc

/-- A keyword and a colon before a body. -/
theorem plain_keyword {k b : Text} (hk : Plain (k ++ [':'])) (hb : Plain b) :
    Plain (k ++ ':' :: b) := by
  have ht := hk.trimmed.append hk.ne_nil hb.trimmed hb.ne_nil []
  have hc := hk.comma
  rw [List.append_nil, List.append_assoc, List.singleton_append] at ht
  refine ⟨by simp, ht, ?_⟩
  simp only [List.mem_append, List.mem_cons, List.not_mem_nil, or_false, not_or] at hc ⊢
  exact ⟨hc.1, hc.2, hb.comma⟩

theorem readsBack_permission {node : Text} (h : Plain node) :
    ReadsBack (Permission.canonical node) (permission node) := by
  have hbody : Opening.isBody node = true := Opening.isBody_iff.2 ⟨h.ne_nil, h.comma⟩
  have hc : Currency.opening.body? (Permission.canonical node) = none :=
    (Opening.body?_keyword (k := "erm".toList) (by decide) (by decide) hbody).trans (if_neg (by decide))
  have hp : Permission.opening.body? (Permission.canonical node) = some node :=
    (Opening.body?_keyword (k := "erm".toList) (by decide) (by decide) hbody).trans (if_pos (by decide))
  have hn : Permission.ofBody node = .ok node := by
    rw [Permission.ofBody, trim_of_trimmed h.trimmed, if_neg]
    rw [List.isEmpty_iff]
    exact h.ne_nil
  refine ⟨plain_keyword (k := "perm".toList) ⟨by decide, trimmed_of_forall (by decide), by decide⟩ h,
    by simp [Permission.canonical]; decide, permission node, ?_, ?_, rfl⟩
  · rw [ofToken, hc, hp]
    simp only [hn]
    rfl
  · exact beq_self_eq_true node

theorem readsBack_effect {e : Effect} (h : e.WellFormed) {t : Text}
    (ht : (effect e).canonical = .ok t) : ReadsBack t (effect e) := by
  have hce : e.canonical = .ok t := ht
  rw [Effect.canonical_eq] at hce
  split at hce
  · rename_i hs
    obtain rfl : _ = t := Except.ok.inj hce
    have hbody : Opening.isBody e.body = true := Effect.isBody_body h.known hs
    have hb : Plain e.body := ⟨Effect.body_ne_nil h.known hs, Effect.trimmed_body h.known hs,
      (Opening.isBody_iff.1 hbody).2⟩
    have hcur : Currency.opening.body? ("eff:".toList ++ e.body) = none :=
      (Opening.body?_keyword (k := "ff".toList) (by decide) (by decide) hbody).trans
        (if_neg (by decide))
    have hper : Permission.opening.body? ("eff:".toList ++ e.body) = none :=
      (Opening.body?_keyword (k := "ff".toList) (by decide) (by decide) hbody).trans
        (if_neg (by decide))
    have heff : Effect.opening.body? ("eff:".toList ++ e.body) = some e.body :=
      Effect.body?_written h.known hs
    refine ⟨plain_keyword (k := "eff".toList)
      ⟨by decide, trimmed_of_forall (by decide), by decide⟩ hb, by simp; decide, effect e, ?_, ?_, ht⟩
    · rw [ofToken, hcur, hper, heff]
      simp only [Effect.ofBody_body h hs]
      rfl
    · exact beq_self_eq_true e
  · cases hce

theorem readsBack_item {i : Item} (h : i.WellFormed) {t : Text}
    (ht : (item i).canonical = .ok t) : ReadsBack t (item i) := by
  have hs := Item.isShort_of_canonical h ht
  have hce : i.canonical = .ok t := ht
  obtain rfl : i.text = t := Except.ok.inj ((Item.canonical_eq h hs).symm.trans hce)
  obtain ⟨r, hr, -⟩ := Item.text_eq_append i
  obtain ⟨c, n, hn⟩ := List.exists_cons_of_ne_nil (Item.lowerName_ne_nil h)
  have htext : i.text = c :: (n ++ r) := by rw [hr, hn]; rfl
  have hc : Catalog.isLowerChar c :=
    Item.isLowerChar_of_mem_lowerName h c (by rw [hn]; exact List.mem_cons_self)
  have hkey := Item.cut_text_not_mem_keywords h
  have hnone : ∀ o ∈ [Currency.opening, Permission.opening, Effect.opening],
      o.body? i.text = none := by
    have hsym : ∀ o ∈ [Currency.opening, Permission.opening, Effect.opening],
        ∀ d ∈ o.symbol, Catalog.isLowerChar d = false := by decide
    have hsub : ∀ o ∈ [Currency.opening, Permission.opening, Effect.opening],
        ∀ k ∈ o.keyword.spellings, k ∈ keywords := by decide
    intro o ho
    rw [htext] at hkey ⊢
    refine Opening.body?_eq_none (fun he => ?_) fun hk => hkey (hsub o ho _ hk)
    exact absurd (hsym o ho c he) (by simp [hc])
  have hmem := Item.mem_text_cases h
  refine ⟨⟨(Item.trimmed_text h).1, (Item.trimmed_text h).2, fun hm => ?_⟩, ?_, item i.sorted, ?_,
    Item.sorted_same h, (Item.canonical_sorted h).trans hce⟩
  · obtain hl | he | he := hmem _ hm
    · exact (Catalog.isLowerChar_cases hl).2.2.2.1 rfl
    · exact (Enchantments.isEntryChar_cases he).2.2 rfl
    · exact absurd he (by decide)
  · rw [htext]
    exact fun d hd => Option.some.inj hd ▸ (Catalog.isLowerChar_cases hc).2.2.1
  · rw [ofToken, hnone _ (by simp), hnone _ (by simp), hnone _ (by simp)]
    simp only [Item.ofToken_text h hs]
    rfl

/-- Every well-formed thing reads back as it is written. -/
theorem readsBack {l : Leaf} (h : l.WellFormed) {t : Text} (ht : l.canonical = .ok t) :
    ReadsBack t l := by
  cases l with
  | currency x => exact readsBack_currency h ht
  | permission node =>
    obtain rfl : _ = t := Except.ok.inj ht
    exact readsBack_permission h
  | effect e => exact readsBack_effect h ht
  | item i => exact readsBack_item h ht
  | stack s => exact h.elim
  | custom c => exact h.elim

/-- Equal things have one canonical text. -/
theorem canonical_eq_of_same {l l' : Leaf} (h : l.WellFormed) (h' : l'.WellFormed)
    (hs : l.same l' = true) : l.canonical = l'.canonical := by
  cases l <;> cases l' <;> simp only [same, Bool.false_eq_true] at hs
  · exact Currency.canonical_eq_of_beq h h' hs
  · rw [eq_of_beq hs]
  · rw [eq_of_beq hs]
  · exact Item.canonical_eq_of_same h h' hs

end Rewards.Leaf
