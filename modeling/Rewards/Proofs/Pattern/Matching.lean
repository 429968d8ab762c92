import Rewards.Proofs.Opening
import Rewards.Proofs.Pattern.Reading

/-!
What the patterns of labels match: the items of a keyword its spellings, and a whole pattern the tokens
with a body, which the second group captures.
-/

namespace Rewards.Pattern

/-- Matches nothing but the texts in `words`, and captures nothing. -/
def Spells (p : Pattern) (words : Text → Prop) : Prop :=
  ∀ s m, m ∈ p.ways s ↔ m.1 = [] ∧ ∃ w, words w ∧ s = w ++ m.2

section Spells

variable {p q : Pattern} {u v : Text → Prop}

theorem spells_empty : Spells empty (· = []) := by
  rintro s ⟨c, r⟩
  simp [ways, and_comm, eq_comm]

theorem spells_char (c : Char) : Spells (char c) (· = [c]) := by
  rintro (_ | ⟨d, s⟩) ⟨x, r⟩
  · simp [ways]
  · by_cases h : c = d
    · simp [ways, h, eq_comm]
    · simp [ways, h, Ne.symm h]

theorem mem_pastOthers {c : Char} {s r : Text} :
    r ∈ pastOthers c s ↔ ∃ w, (w ≠ [] ∧ c ∉ w) ∧ s = w ++ r := by
  induction s with
  | nil => simp +contextual [pastOthers]
  | cons d s ih =>
    rw [pastOthers]
    split
    · rename_i hd
      constructor
      · intro h
        cases h
      · rintro ⟨w, ⟨hne, hw⟩, he⟩
        obtain ⟨e, w, rfl⟩ := List.exists_cons_of_ne_nil hne
        obtain ⟨rfl, -⟩ := List.cons.inj he
        exact absurd (by simp [hd]) hw
    · rename_i hd
      rw [List.mem_append, List.mem_singleton, ih]
      constructor
      · rintro (⟨w, ⟨-, hw⟩, rfl⟩ | rfl)
        · exact ⟨d :: w, ⟨List.cons_ne_nil d w, by simp [Ne.symm hd, hw]⟩, rfl⟩
        · exact ⟨[d], ⟨List.cons_ne_nil d [], by simp [Ne.symm hd]⟩, rfl⟩
      · rintro ⟨w, ⟨hne, hw⟩, he⟩
        obtain ⟨e, w, rfl⟩ := List.exists_cons_of_ne_nil hne
        obtain ⟨rfl, rfl⟩ := List.cons.inj he
        cases w with
        | nil => exact .inr rfl
        | cons e w =>
          exact .inl ⟨e :: w, ⟨List.cons_ne_nil e w, fun h => hw (List.mem_cons_of_mem _ h)⟩, rfl⟩

theorem spells_others (c : Char) : Spells (others c) fun w => w ≠ [] ∧ c ∉ w := by
  rintro s ⟨x, r⟩
  rw [ways, List.mem_map, ← mem_pastOthers]
  simp [and_comm, eq_comm]

theorem Spells.chain (hp : Spells p u) (hq : Spells q v) :
    Spells (chain p q) fun w => ∃ a b, u a ∧ v b ∧ w = a ++ b := by
  rintro s ⟨x, r⟩
  simp only [ways, List.mem_flatMap, List.mem_map]
  constructor
  · rintro ⟨m, hm, n, hn, he⟩
    obtain ⟨hx, a, ha, rfl⟩ := (hp _ _).1 hm
    obtain ⟨hy, b, hb, hr⟩ := (hq _ _).1 hn
    rw [hx, hy] at he
    cases he
    exact ⟨rfl, a ++ b, ⟨a, b, ha, hb, rfl⟩, by rw [hr, List.append_assoc]⟩
  · rintro ⟨rfl, w, ⟨a, b, ha, hb, rfl⟩, rfl⟩
    refine ⟨([], b ++ r), (hp _ _).2 ⟨rfl, a, ha, by simp⟩, ([], r), (hq _ _).2 ⟨rfl, b, hb, rfl⟩, ?_⟩
    rfl

theorem Spells.optional (hp : Spells p u) : Spells (optional p) fun w => w = [] ∨ u w := by
  rintro s ⟨x, r⟩
  rw [ways, List.mem_append, hp, List.mem_singleton]
  constructor
  · rintro (⟨hx, w, hw, hs⟩ | he)
    · exact ⟨hx, w, .inr hw, hs⟩
    · cases he
      exact ⟨rfl, [], .inl rfl, rfl⟩
  · rintro ⟨hx, w, rfl | hw, hs⟩
    · exact .inr (Prod.ext hx hs.symm)
    · exact .inl ⟨hx, w, hw, hs⟩

theorem Spells.congr (h : Spells p u) (he : ∀ w, u w ↔ v w) : Spells p v := by
  intro s m
  rw [h s m]
  simp only [he]

theorem spells_sequence_singleton (h : Spells p u) : Spells (sequence [p]) u :=
  (h.chain spells_empty).congr fun w => by simp

/-- The items of an expression match its spellings, with what further items match behind them. -/
theorem spells_items {ps : List Pattern} (k : Keyword) (h : Spells (sequence ps) u) :
    Spells (sequence (k.items ++ ps)) fun w => ∃ a ∈ k.spellings, ∃ b, u b ∧ w = a ++ b := by
  induction k generalizing ps u with
  | done => exact h.congr fun w => by simp [Keyword.spellings]
  | letter c k ih =>
    refine ((spells_char c).chain (ih h)).congr fun w => ?_
    simp only [Keyword.spellings, List.mem_map]
    constructor
    · rintro ⟨_, _, rfl, ⟨a, ha, b, hb, rfl⟩, rfl⟩
      exact ⟨c :: a, ⟨a, ha, rfl⟩, b, hb, rfl⟩
    · rintro ⟨_, ⟨a, ha, rfl⟩, b, hb, rfl⟩
      exact ⟨[c], a ++ b, rfl, ⟨a, ha, b, hb, rfl⟩, rfl⟩
  | optional inner k ihi ihk =>
    have hinner : Spells (sequence inner.items) (· ∈ inner.spellings) := by
      have h : Spells (sequence (inner.items ++ [])) _ := ihi spells_empty
      rw [List.append_nil] at h
      exact h.congr fun w => by simp
    refine (hinner.optional.chain (ihk h)).congr fun w => ?_
    simp only [Keyword.spellings, List.mem_flatMap, List.mem_map, List.mem_cons]
    constructor
    · rintro ⟨a, _, ha, ⟨b, hb, d, hd, rfl⟩, rfl⟩
      exact ⟨a ++ b, ⟨a, ha, b, hb, rfl⟩, d, hd, by simp⟩
    · rintro ⟨_, ⟨a, ha, b, hb, rfl⟩, d, hd, rfl⟩
      exact ⟨a, b ++ d, ha, ⟨b, hb, d, hd, rfl⟩, by simp⟩

end Spells

section Captures

variable {p q r : Pattern} {words : Text → Prop} {s t : Text}

theorem mem_ways_group {n : Nat} {m : Match} (h : Spells p words) :
    m ∈ (group n p).ways s ↔ ∃ w, words w ∧ s = w ++ m.2 ∧ m.1 = [(n, w)] := by
  obtain ⟨x, r⟩ := m
  simp only [ways, List.mem_map, h s _]
  constructor
  · rintro ⟨⟨y, r'⟩, ⟨rfl, w, hw, rfl⟩, he⟩
    obtain ⟨rfl, rfl⟩ := Prod.mk.inj he
    exact ⟨w, hw, rfl, by simp⟩
  · rintro ⟨w, hw, rfl, rfl⟩
    exact ⟨([], r), ⟨rfl, w, hw, rfl⟩, by simp⟩

theorem spells_body : Spells (sequence [others ',']) fun b => Opening.isBody b = true :=
  (spells_sequence_singleton (spells_others ',')).congr fun _ => Opening.isBody_iff.symm

theorem mem_ways_token {c : List (Nat × Text)} (h : Spells p words) :
    (c, []) ∈ (token p).ways t ↔
      ∃ w b, words w ∧ t = w ++ b ∧ Opening.isBody b = true ∧ c = [(2, b), (1, w)] := by
  have hbody : ∀ s m, m ∈ (chain (group 2 (sequence [others ','])) empty).ways s ↔
      ∃ b, Opening.isBody b = true ∧ s = b ++ m.2 ∧ m.1 = [(2, b)] := by
    intro s m
    rw [← mem_ways_group spells_body]
    simp [ways]
  have htoken : (token p).ways t = ((group 1 p).ways t).flatMap fun m =>
      ((chain (group 2 (sequence [others ','])) empty).ways m.2).map fun n =>
        (n.1 ++ m.1, n.2) := rfl
  simp only [htoken, List.mem_flatMap, List.mem_map, mem_ways_group h, hbody]
  constructor
  · rintro ⟨m, ⟨w, hw, rfl, hm⟩, n, ⟨b, hb, hr, hn⟩, he⟩
    obtain ⟨rfl, hnil⟩ := Prod.mk.inj he
    rw [hnil, List.append_nil] at hr
    exact ⟨w, b, hw, by rw [hr], hb, by rw [hn, hm]; rfl⟩
  · rintro ⟨w, b, hw, rfl, hb, rfl⟩
    exact ⟨([(1, w)], b), ⟨w, hw, rfl, rfl⟩, ([(2, b)], []), ⟨b, hb, by simp, rfl⟩, rfl⟩

/-- The pattern matches where `f` has a value, and captures it in its second group. -/
def Finds (p : Pattern) (f : Text → Option Text) : Prop :=
  ∀ t, (p.captures? t).map (·.lookup 2) = (f t).map some

theorem Finds.isSome {f : Text → Option Text} (h : Finds p f) (t : Text) :
    (p.captures? t).isSome = (f t).isSome := by
  have := congrArg Option.isSome (h t)
  rwa [Option.isSome_map, Option.isSome_map] at this

theorem Finds.strip {f : Text → Option Text} (h : Finds p f) (t : Text) :
    p.strip t = (f t).getD t := by
  have := h t
  rw [Pattern.strip]
  cases hc : p.captures? t with
  | none =>
    rw [hc, Option.map_none, eq_comm, Option.map_eq_none_iff] at this
    rw [this]
    rfl
  | some c =>
    rw [hc, Option.map_some, eq_comm, Option.map_eq_some_iff] at this
    obtain ⟨b, hb, hl⟩ := this
    simp only [hb, ← hl, Option.getD_some]

theorem finds_token {f : Text → Option Text} (h : Spells p words)
    (hf : ∀ t b, f t = some b ↔ ∃ w, words w ∧ t = w ++ b ∧ Opening.isBody b = true) :
    Finds (token p) f := by
  intro t
  rw [captures?]
  cases hm : ((token p).ways t).find? fun m => m.2.isEmpty with
  | none =>
    cases hb : f t with
    | none => rfl
    | some b =>
      obtain ⟨w, hw, ht, hbody⟩ := (hf t b).1 hb
      have hmem := (mem_ways_token h).2 ⟨w, b, hw, ht, hbody, rfl⟩
      exact absurd rfl (List.find?_eq_none.1 hm _ hmem)
  | some m =>
    obtain ⟨c, r⟩ := m
    have hr := List.find?_some hm
    obtain rfl : r = [] := List.isEmpty_iff.1 hr
    obtain ⟨w, b, hw, ht, hbody, rfl⟩ := (mem_ways_token h).1 (List.mem_of_find?_eq_some hm)
    rw [(hf t b).2 ⟨w, hw, ht, hbody⟩]
    rfl

/-- The first branch is tried before the second one. -/
theorem captures?_either :
    (token (either p q)).captures? t = ((token p).captures? t).or ((token q).captures? t) := by
  have hways : (token (either p q)).ways t = (token p).ways t ++ (token q).ways t := by
    simp only [token, sequence, List.foldr_cons, ways, List.map_append, List.flatMap_append]
  rw [captures?, hways, List.find?_append, Option.map_or]
  rfl

theorem Finds.or {f g : Text → Option Text} (hp : Finds (token p) f) (hq : Finds (token q) g) :
    Finds (token (either p q)) fun t => (f t).or (g t) := by
  intro t
  rw [captures?_either, Option.map_or, hp t, hq t, Option.map_or]

end Captures

theorem finds_symbol {o : Opening} {c : Char} (h : o.symbol = some c) :
    Finds (token (sequence [char c])) o.afterSymbol? := by
  refine finds_token (spells_sequence_singleton (spells_char c)) fun t b => ?_
  rw [Opening.afterSymbol?_eq_some_iff, h]
  constructor
  · rintro ⟨d, rfl, hd, hb⟩
    cases hd
    exact ⟨[c], rfl, rfl, hb⟩
  · rintro ⟨_, rfl, rfl, hb⟩
    exact ⟨c, rfl, rfl, hb⟩

theorem finds_keyword {o : Opening} (h : ':' ∉ o.keyword.letters) :
    Finds (token (keywordHead o.keyword)) o.afterKeyword? := by
  refine finds_token (spells_items _ (spells_sequence_singleton (spells_char ':'))) fun t b => ?_
  rw [Opening.afterKeyword?_eq_some_iff]
  constructor
  · rintro ⟨k, rfl, -, hk, hb⟩
    exact ⟨k ++ [':'], ⟨k, Keyword.isSpelling_iff.1 hk, _, rfl, rfl⟩, by simp, hb⟩
  · rintro ⟨_, ⟨k, hk, _, rfl, rfl⟩, rfl, hb⟩
    exact ⟨k, by simp, fun hc => h (Keyword.mem_letters_of_mem_spellings hk hc),
      Keyword.isSpelling_iff.2 hk, hb⟩

theorem finds_head {o : Opening} (h : ':' ∉ o.keyword.letters) : Finds (token (head o)) o.body? := by
  have hk := finds_keyword h
  rw [head]
  split
  · rename_i hs
    intro t
    have hnone : o.afterSymbol? t = none := by
      cases t with
      | nil => rfl
      | cons c t => simp [Opening.afterSymbol?, hs]
    rw [hk t, Opening.body?, hnone, Option.none_or]
  · rename_i c hs
    exact (finds_symbol hs).or hk

end Rewards.Pattern
