import Rewards.Proofs.Leaf

/-!
Closed groups. A group token ends where its first parenthesis closes, so what is written in the
parentheses of a group has to be balanced. Only permission nodes can stand in the way.
-/

namespace Rewards

open Text Token

namespace Leaf

/-- The parentheses that a thing is written with. -/
def parens : Leaf → Text
  | permission node => Token.parens node
  | _ => []

/-- Every parenthesis of a node has its partner. -/
def Balanced : Leaf → Prop
  | permission node => Token.Balanced node
  | _ => True

theorem parens_canonical {l : Leaf} (h : l.WellFormed) {t : Text} (ht : l.canonical = .ok t) :
    Token.parens t = l.parens := by
  cases l with
  | currency x =>
    obtain ⟨b, -, hc, hb, -⟩ := Currency.ofBody_canonical h
    obtain rfl : _ = t := Except.ok.inj (hc.symm.trans ht)
    refine parens_eq_nil_iff.2 (List.forall_mem_cons.2 ⟨by decide, fun c hc => ?_⟩)
    exact Currency.isParen_of_isNumberChar (hb c hc)
  | permission node =>
    obtain rfl : _ = t := Except.ok.inj ht
    rfl
  | effect e =>
    have hce : e.canonical = .ok t := ht
    rw [Effect.canonical_eq] at hce
    split at hce
    · rename_i hs
      obtain rfl : _ = t := Except.ok.inj hce
      refine parens_eq_nil_iff.2 (List.forall_mem_append.2 ⟨by decide, fun c hc => ?_⟩)
      exact (Effect.isEffectChar_cases (Effect.isEffectChar_of_mem_body (Effect.WellFormed.known h) hs c hc)).1
    · cases hce
  | item i =>
    have hs := Item.isShort_of_canonical h ht
    obtain rfl : _ = t := Except.ok.inj ((Item.canonical_eq h hs).symm.trans ht)
    refine parens_eq_nil_iff.2 fun c hc => ?_
    obtain hl | he | rfl := Item.mem_text_cases h c hc
    · exact (Catalog.isLowerChar_cases hl).2.2.1
    · exact (Enchantments.isEntryChar_cases he).2.1
    · decide
  | stack s => exact h.elim
  | custom c => exact h.elim

end Leaf

namespace Grantable

mutual

/-- The elements of every group are written with balanced parentheses. -/
def Closed : Grantable → Prop
  | leaf _ => True
  | group gs => ClosedAll gs ∧ ∀ t, describe gs = .ok t → Balanced t

def ClosedAll : List Grantable → Prop
  | [] => True
  | g :: gs => Closed g ∧ ClosedAll gs

end

theorem describe_eq_ok_iff {gs : List Grantable} {t : Text} :
    describe gs = .ok t ↔ ∃ ts, canonicals gs = .ok ts ∧ joined ", ".toList ts = t :=
  Outcome.map_eq_ok_iff

theorem canonical_group_eq_ok_iff {gs : List Grantable} {t : Text} :
    canonical (group gs) = .ok t ↔ ∃ b, describe gs = .ok b ∧ '(' :: (b ++ [')']) = t := by
  rw [canonical, describe]
  cases canonicals gs <;> simp [bind, Except.bind, pure, Except.pure, Functor.map, Except.map]

theorem canonicals_cons_eq_ok_iff {g : Grantable} {gs : List Grantable} {ts : List Text} :
    canonicals (g :: gs) = .ok ts ↔
      ∃ t us, canonical g = .ok t ∧ canonicals gs = .ok us ∧ ts = t :: us := by
  rw [canonicals]
  cases canonical g <;> cases canonicals gs <;>
    simp [bind, Except.bind, pure, Except.pure, eq_comm]


mutual

/-- A grantable is written with balanced parentheses if its permission nodes are. -/
theorem balanced_canonical : ∀ (g : Grantable), (∀ l ∈ leaves g, l.WellFormed ∧ l.Balanced) →
    Closed g ∧ ∀ t, canonical g = .ok t → Balanced t
  | leaf l, h => by
    obtain ⟨hw, hb⟩ := h l (by simp [leaves])
    refine ⟨trivial, fun t ht => ?_⟩
    have hp := Leaf.parens_canonical hw ht
    cases l with
    | permission node => exact (balanced_congr hp).2 hb
    | currency | effect | item | stack | custom => exact balanced_of_parens_eq_nil hp
  | group gs, h => by
    obtain ⟨hc, hb⟩ := balanced_canonicals gs (by simpa [leaves] using h)
    have hd : ∀ t, describe gs = .ok t → Balanced t := by
      intro t ht
      obtain ⟨ts, hts, rfl⟩ := describe_eq_ok_iff.1 ht
      exact balanced_joined (hb ts hts)
    refine ⟨⟨hc, hd⟩, fun t ht => ?_⟩
    obtain ⟨b, hb, rfl⟩ := canonical_group_eq_ok_iff.1 ht
    exact (hd b hb).parenthesized

theorem balanced_canonicals : ∀ (gs : List Grantable),
    (∀ l ∈ leavesAll gs, l.WellFormed ∧ l.Balanced) →
    ClosedAll gs ∧ ∀ ts, canonicals gs = .ok ts → ∀ t ∈ ts, Balanced t
  | [], _ => by
    refine ⟨trivial, fun ts hts => ?_⟩
    obtain rfl : _ = ts := Except.ok.inj hts
    simp
  | g :: gs, h => by
    simp only [leavesAll, List.mem_append] at h
    obtain ⟨hc, hb⟩ := balanced_canonical g fun l hl => h l (.inl hl)
    obtain ⟨hcs, hbs⟩ := balanced_canonicals gs fun l hl => h l (.inr hl)
    refine ⟨⟨hc, hcs⟩, fun ts hts => ?_⟩
    obtain ⟨t, us, ht, hus, rfl⟩ := canonicals_cons_eq_ok_iff.1 hts
    exact List.forall_mem_cons.2 ⟨hb t ht, hbs us hus⟩

end

end Grantable

end Rewards
