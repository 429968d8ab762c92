import Rewards.Effect
import Rewards.Currency
import Rewards.Permission
import Rewards.Proofs.Catalog
import Rewards.Proofs.Text.Cutting

/-!
Openings of tokens. The built-in kinds claim different symbols and keywords, and no name of a
material is one of their keywords.
-/

namespace Rewards

open Text Token

namespace Opening

variable {o : Opening}

/-- What stands before the body of a token. -/
inductive Opens (o : Opening) : Text → Prop
  | symbol {c : Char} (h : o.symbol = some c) : Opens o [c]
  | keyword {k : Text} (h : k ∈ o.keyword.spellings) : Opens o (k ++ [':'])

theorem isBody_iff {b : Text} : isBody b = true ↔ b ≠ [] ∧ ',' ∉ b := by
  simp [isBody]

section Body

variable {t b : Text}

theorem afterSymbol?_eq_some_iff : o.afterSymbol? t = some b ↔
    ∃ c, t = c :: b ∧ o.symbol = some c ∧ isBody b = true := by
  constructor
  · intro h
    cases t with
    | nil => cases h
    | cons c t =>
      simp only [afterSymbol?, Option.ite_none_right_eq_some, Option.some.injEq] at h
      obtain ⟨⟨hs, hb⟩, rfl⟩ := h
      exact ⟨c, rfl, hs, hb⟩
  · rintro ⟨c, rfl, hs, hb⟩
    rw [afterSymbol?, if_pos ⟨hs, hb⟩]

theorem afterKeyword?_eq_some_iff : o.afterKeyword? t = some b ↔
    ∃ k, t = k ++ ':' :: b ∧ ':' ∉ k ∧ o.keyword.isSpelling k = true ∧ isBody b = true := by
  constructor
  · intro h
    obtain ⟨-, hc⟩ | ⟨k, r, rfl, hk, hc⟩ := cut_cases ':' t
    · rw [afterKeyword?, hc] at h
      cases h
    · rw [afterKeyword?, hc] at h
      simp only [Option.ite_none_right_eq_some, Option.some.injEq] at h
      obtain ⟨⟨hs, hb⟩, rfl⟩ := h
      exact ⟨k, rfl, hk, hs, hb⟩
  · rintro ⟨k, rfl, hk, hs, hb⟩
    rw [afterKeyword?, cut_append hk]
    exact if_pos ⟨hs, hb⟩

theorem claims_iff : o.claims t = true ↔
    (∃ b, o.afterSymbol? t = some b) ∨ ∃ b, o.afterKeyword? t = some b := by
  rw [claims, body?, Option.isSome_or, Bool.or_eq_true, Option.isSome_iff_exists,
    Option.isSome_iff_exists]

theorem opens_of_body? (h : o.body? t = some b) :
    isBody b = true ∧ ∃ k, Opens o k ∧ t = k ++ b := by
  obtain h | ⟨-, h⟩ := Option.or_eq_some_iff.1 h
  · obtain ⟨c, rfl, hs, hb⟩ := afterSymbol?_eq_some_iff.1 h
    exact ⟨hb, [c], .symbol hs, rfl⟩
  · obtain ⟨k, rfl, -, hs, hb⟩ := afterKeyword?_eq_some_iff.1 h
    exact ⟨hb, _, .keyword (Keyword.isSpelling_iff.1 hs), by simp⟩

end Body

theorem body?_symbol {c : Char} (h : o.symbol = some c) {b : Text} (hb : isBody b = true) :
    o.body? (c :: b) = some b := by
  rw [body?, afterSymbol?, if_pos ⟨h, hb⟩]
  rfl

theorem body?_of_cut {c : Char} {t : Text} (hs : o.symbol ≠ some c) :
    o.body? (c :: t) = o.afterKeyword? (c :: t) := by
  rw [body?, afterSymbol?, if_neg fun h => hs h.1]
  rfl

/-- The keyword stands before the first colon. -/
theorem body?_keyword {c : Char} {k : Text} (hs : o.symbol ≠ some c) (hk : ':' ∉ c :: k) {b : Text}
    (hb : isBody b = true) :
    o.body? (c :: k ++ ':' :: b) = if o.keyword.isSpelling (c :: k) then some b else none := by
  have h : o.body? (c :: k ++ ':' :: b) = o.afterKeyword? (c :: k ++ ':' :: b) := body?_of_cut hs
  rw [h, afterKeyword?, cut_append hk]
  simp only [hb, and_true]

theorem body?_eq_none {c : Char} {t : Text} (hs : o.symbol ≠ some c)
    (hk : (cut ':' (c :: t)).1 ∉ o.keyword.spellings) : o.body? (c :: t) = none := by
  rw [body?_of_cut hs, afterKeyword?]
  split
  · rename_i k b h
    rw [h, ← Keyword.isSpelling_iff] at hk
    rw [if_neg fun h => hk h.1]
  · rfl

section Exchange

variable {t b : Text}

theorem isBody_append_colon {s : Text} (hb : isBody b = true) :
    isBody (s ++ ':' :: b) = true ↔ ',' ∉ s := by
  have hc := (isBody_iff.1 hb).2
  simp [isBody_iff, hc]

theorem append_colon_inj {k k' b b' : Text} (hk : ':' ∉ k) (hk' : ':' ∉ k')
    (h : k ++ ':' :: b = k' ++ ':' :: b') : k = k' := by
  have hc := cut_append hk b
  rw [h, cut_append hk'] at hc
  exact (congrArg Prod.fst hc).symm

/-- After its symbol a token may have another body. Unless that has a colon, the kinds that claim the
new token have claimed the old one. -/
theorem claims_of_symbol {c : Char} {b' : Text} (hb : isBody b = true) (hc : ':' ∉ b')
    (h : o.claims (c :: b') = true) : o.claims (c :: b) = true := by
  rw [claims_iff] at h ⊢
  obtain ⟨_, h⟩ | ⟨_, h⟩ := h
  · obtain ⟨_, he, hs, -⟩ := afterSymbol?_eq_some_iff.1 h
    obtain ⟨rfl, -⟩ := List.cons_eq_cons.1 he
    exact .inl ⟨b, afterSymbol?_eq_some_iff.2 ⟨c, rfl, hs, hb⟩⟩
  · obtain ⟨k, he, -, hs, -⟩ := afterKeyword?_eq_some_iff.1 h
    cases k with
    | nil =>
      -- The symbol is the colon behind an empty keyword.
      obtain ⟨rfl, -⟩ := List.cons_eq_cons.1 he
      exact .inr ⟨b, afterKeyword?_eq_some_iff.2 ⟨[], rfl, List.not_mem_nil, hs, hb⟩⟩
    | cons d k =>
      obtain ⟨-, rfl⟩ := List.cons_eq_cons.1 he
      exact absurd (by simp) hc

theorem afterSymbol?_of_keyword {k b' r : Text} (hb : isBody b = true) (hb' : isBody b' = true)
    (h : o.afterSymbol? (k ++ ':' :: b') = some r) :
    ∃ r', o.afterSymbol? (k ++ ':' :: b) = some r' := by
  obtain ⟨c, he, hs, hbody⟩ := afterSymbol?_eq_some_iff.1 h
  cases k with
  | nil =>
    obtain ⟨rfl, -⟩ := List.cons_eq_cons.1 he
    exact ⟨b, afterSymbol?_eq_some_iff.2 ⟨':', rfl, hs, hb⟩⟩
  | cons d k =>
    obtain ⟨rfl, rfl⟩ := List.cons_eq_cons.1 he
    have hk : ',' ∉ k := (isBody_append_colon hb').1 hbody
    exact ⟨_, afterSymbol?_eq_some_iff.2 ⟨d, rfl, hs, (isBody_append_colon hb).2 hk⟩⟩

theorem claims_of_keyword {k b' : Text} (hk : ':' ∉ k) (hb : isBody b = true)
    (hb' : isBody b' = true) (h : o.claims (k ++ ':' :: b') = true) :
    o.claims (k ++ ':' :: b) = true := by
  rw [claims_iff] at h ⊢
  obtain ⟨_, h⟩ | ⟨_, h⟩ := h
  · exact .inl (afterSymbol?_of_keyword hb hb' h)
  · obtain ⟨k', he, hk', hs, -⟩ := afterKeyword?_eq_some_iff.1 h
    obtain rfl := append_colon_inj hk hk' he
    exact .inr ⟨b, afterKeyword?_eq_some_iff.2 ⟨k, rfl, hk, hs, hb⟩⟩

/-- In a claimed token another body may take the place of the body. Unless that has a colon, all kinds
that claim the new token have claimed the old one. -/
theorem exists_exchange (b' : Text) (h : o.body? t = some b) (hb' : isBody b' = true)
    (hc : ':' ∉ b') : ∃ k, k ≠ [] ∧ t = k ++ b ∧ o.body? (k ++ b') = some b' ∧
      ∀ o' : Opening, o'.claims (k ++ b') = true → o'.claims t = true := by
  obtain h | ⟨hn, h⟩ := Option.or_eq_some_iff.1 h
  · obtain ⟨c, rfl, hs, hb⟩ := afterSymbol?_eq_some_iff.1 h
    exact ⟨[c], List.cons_ne_nil c [], rfl, body?_symbol hs hb', fun _ => claims_of_symbol hb hc⟩
  · obtain ⟨k, rfl, hk, hs, hb⟩ := afterKeyword?_eq_some_iff.1 h
    refine ⟨k ++ [':'], by simp, by simp, ?_, fun o' ho => ?_⟩
    · rw [List.append_assoc, List.singleton_append, body?,
        afterKeyword?_eq_some_iff.2 ⟨k, rfl, hk, hs, hb'⟩, Option.or_eq_right_of_none]
      -- Where the symbol claims the new token, it has claimed the old one.
      rw [Option.eq_none_iff_forall_ne_some]
      intro r hr
      obtain ⟨r', hr'⟩ := afterSymbol?_of_keyword hb hb' hr
      rw [hn] at hr'
      cases hr'
    · rw [List.append_assoc, List.singleton_append] at ho
      exact claims_of_keyword hk hb hb' ho

end Exchange

end Opening

/-- The keywords of all built-in kinds. -/
def keywords : List Text :=
  Currency.opening.keyword.spellings ++ Permission.opening.keyword.spellings ++
    Effect.opening.keyword.spellings

theorem isLowerChar_of_mem_keywords : ∀ k ∈ keywords, ∀ c ∈ k, Catalog.isLowerChar c := by decide

/-- No material is called like a keyword. -/
theorem material?_of_mem_keywords : ∀ k ∈ keywords, Catalog.material? k = .ok none := by
  have hnone : ∀ k ∈ keywords, Catalog.isNumeral k = false ∧
      Catalog.named? Catalog.materials (Catalog.normalized k) = none := by decide +kernel
  intro k hk
  obtain ⟨h1, h2⟩ := hnone k hk
  rw [Catalog.material?, Catalog.find?, h1, h2]
  rfl

theorem lowerName_not_mem_keywords {m : Key} (h : m ∈ Catalog.materials) :
    Item.lowerName m ∉ keywords := by
  intro hk
  have hf := Catalog.material?_lowerName h
  rw [material?_of_mem_keywords _ hk] at hf
  cases hf

theorem Opening.Opens.parens {o : Opening} (ho : o ∈ [Currency.opening, Permission.opening,
    Effect.opening]) {k : Text} (h : Opens o k) : Token.parens k = [] := by
  cases h with
  | symbol hs =>
    have hmem : ∀ o ∈ [Currency.opening, Permission.opening, Effect.opening],
        Token.parens o.symbol.toList = [] := by decide
    simpa [hs] using hmem o ho
  | keyword hk =>
    have hmem : ∀ o ∈ [Currency.opening, Permission.opening, Effect.opening],
        ∀ k ∈ o.keyword.spellings, Token.parens (k ++ [':']) = [] := by decide
    exact hmem o ho _ hk

end Rewards
