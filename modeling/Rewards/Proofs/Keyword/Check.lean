import Rewards.Proofs.Label

/-!
Which texts are keywords. The check of a label accepts letters, digits, `_`, `.`, `-` and pairs of
parentheses, but not parentheses alone. Against the rule it does not mind a line end behind them.
-/

namespace Rewards.Label

open Text Token

/-- What a keyword may be written with. -/
def IsAllowed (c : Char) : Prop := c.isAlphanum = true ∨ c ∈ "_.-()".toList

theorem isKeywordChar_iff {c : Char} : isKeywordChar c = true ↔ IsAllowed c := by
  simp [isKeywordChar, IsAllowed, or_assoc]

theorem not_isAllowed_lineEnd : ¬IsAllowed '\n' := by
  unfold IsAllowed
  decide

/-- A text that keeps the rule: no parenthesis closes what is not open, and none stays open. -/
structure IsKeyword (s : Text) : Prop where
  allowed : ∀ c ∈ s, IsAllowed c
  word : ∃ c ∈ s, isParen c = false
  closed : ∀ u, u <+: s → u.count ')' ≤ u.count '('
  paired : s.count '(' = s.count ')'

theorem isKeyword_iff {s : Text} :
    IsKeyword s ↔ (∀ c ∈ s, IsAllowed c) ∧ (∃ c ∈ s, isParen c = false) ∧ Balanced s := by
  rw [balanced_iff]
  constructor
  · intro h
    exact ⟨h.allowed, h.word, h.closed, h.paired⟩
  · rintro ⟨ha, hw, hc, hp⟩
    exact ⟨ha, hw, hc, hp⟩

section Unpaired

variable {whole s : Text} {i : Nat} {opened : List Nat}

/-- There are as many places of open parentheses as the nesting is deep. -/
theorem unpaired_eq_none_iff :
    unpaired whole i opened s = none ↔ nesting opened.length s = some 0 := by
  induction s generalizing i opened with
  | nil => cases opened <;> simp [unpaired, nesting]
  | cons c s ih =>
    rw [Keyword.unpaired_cons]
    rcases paren_cases c with rfl | rfl | hc
    · rw [if_pos rfl, ih, List.length_cons, nesting_open]
    · rw [if_neg (by decide), if_pos rfl]
      cases opened with
      | nil => simp [nesting]
      | cons p opened => rw [ih, List.length_cons, nesting_close]
    · rw [nesting_other hc]
      simp only [isParen, Bool.or_eq_false_iff, decide_eq_false_iff_not] at hc
      rw [if_neg hc.1, if_neg hc.2, ih]

theorem unpaired_cases {f : KindFlaw} (h : unpaired whole i opened s = some f) :
    ∃ p, f = .strayClose p whole ∨ f = .unclosed p whole := by
  induction s generalizing i opened with
  | nil =>
    cases opened with
    | nil => cases h
    | cons p opened =>
      cases h
      exact ⟨p, .inr rfl⟩
  | cons c s ih =>
    rw [Keyword.unpaired_cons] at h
    split_ifs at h
    · exact ih h
    · cases opened with
      | nil =>
        cases h
        exact ⟨i, .inl rfl⟩
      | cons p opened => exact ih h
    · exact ih h

end Unpaired

section Check

variable {s : Text}

theorem dropLineEnd_concat (s : Text) : dropLineEnd (s ++ ['\n']) = s := by
  rw [dropLineEnd, List.getLast?_concat, if_pos rfl, List.dropLast_concat]

theorem dropLineEnd_of_getLast? (h : s.getLast? ≠ some '\n') : dropLineEnd s = s := by
  rw [dropLineEnd, if_neg h]

/-- There is something before the line end, and all of it is allowed. -/
def Lettered (s : Text) : Prop := dropLineEnd s ≠ [] ∧ ∀ c ∈ dropLineEnd s, IsAllowed c

/-- The three checks, in their order. -/
theorem keywordFlaw?_cases (s : Text) :
    (keywordFlaw? (some s) = some (.emptyKeyword (some s)) ∧ ∀ c ∈ s, isParen c = true) ∨
    (keywordFlaw? (some s) = some (.foreignCharacter s) ∧ (∃ c ∈ s, isParen c = false) ∧
      ¬Lettered s) ∨
    keywordFlaw? (some s) = unpaired s 0 [] s ∧ (∃ c ∈ s, isParen c = false) ∧ Lettered s := by
  have hall : (s.all fun c => c = '(' ∨ c = ')') = s.all isParen := by
    simp only [Bool.decide_or]
    rfl
  have hword : ¬s.all isParen = true ↔ ∃ c ∈ s, isParen c = false := by
    simp
  have hlettered : ¬((dropLineEnd s).isEmpty || !(dropLineEnd s).all isKeywordChar) = true ↔
      Lettered s := by
    simp only [Lettered, ← isKeywordChar_iff]
    simp
  rw [keywordFlaw?, Option.getD_some, hall]
  by_cases he : s.all isParen = true
  · rw [if_pos he]
    exact .inl ⟨rfl, List.all_eq_true.1 he⟩
  · rw [if_neg he]
    by_cases hl : Lettered s
    · rw [if_neg (hlettered.2 hl)]
      exact .inr (.inr ⟨rfl, hword.1 he, hl⟩)
    · rw [if_pos (not_not.1 fun h => hl (hlettered.1 h))]
      exact .inr (.inl ⟨rfl, hword.1 he, hl⟩)

theorem keywordFlaw?_eq_none_iff : keywordFlaw? (some s) = none ↔
    (∃ c ∈ s, isParen c = false) ∧ Lettered s ∧ Balanced s := by
  obtain ⟨h, he⟩ | ⟨h, -, hl⟩ | ⟨h, hw, hl⟩ := keywordFlaw?_cases s
  · rw [h]
    apply iff_of_false (by simp)
    rintro ⟨⟨c, hc, hp⟩, -⟩
    rw [he c hc] at hp
    cases hp
  · rw [h]
    exact iff_of_false (by simp) fun hs => hl hs.2.1
  · rw [h, unpaired_eq_none_iff]
    exact ⟨fun hb => ⟨hw, hl, hb⟩, fun hs => hs.2.2⟩

theorem keyword_of_getLast? (h : s.getLast? ≠ some '\n') :
    keywordFlaw? (some s) = none ↔ IsKeyword s := by
  rw [keywordFlaw?_eq_none_iff, isKeyword_iff, Lettered, dropLineEnd_of_getLast? h]
  constructor
  · rintro ⟨hw, ⟨-, ha⟩, hb⟩
    exact ⟨ha, hw, hb⟩
  · rintro ⟨ha, ⟨c, hc, hp⟩, hb⟩
    exact ⟨⟨c, hc, hp⟩, ⟨List.ne_nil_of_mem hc, ha⟩, hb⟩

/-- The line end counts as a character outside parentheses. -/
theorem keyword_lineEnd_iff : keywordFlaw? (some (s ++ ['\n'])) = none ↔
    s ≠ [] ∧ (∀ c ∈ s, IsAllowed c) ∧ Balanced s := by
  have hword : ∃ c ∈ s ++ ['\n'], isParen c = false := ⟨'\n', by simp, rfl⟩
  have hparens : parens (s ++ ['\n']) = parens s := by
    rw [parens_append, parens_cons_of_not rfl, parens_nil, List.append_nil]
  rw [keywordFlaw?_eq_none_iff, Lettered, dropLineEnd_concat, balanced_congr hparens, and_assoc,
    and_iff_right hword]

theorem exists_foreign (hl : ¬Lettered s) (hw : ∃ c ∈ s, isParen c = false) :
    ∃ c ∈ s, ¬IsAllowed c := by
  by_contra hall
  push Not at hall
  have hlast : s.getLast? ≠ some '\n' := by
    intro h
    exact not_isAllowed_lineEnd (hall _ (List.mem_of_getLast? h))
  obtain ⟨c, hc, -⟩ := hw
  apply hl
  rw [Lettered, dropLineEnd_of_getLast? hlast]
  exact ⟨List.ne_nil_of_mem hc, hall⟩

end Check

/-- A text that does not end with a line end is accepted exactly if it keeps the rule. With a line
end behind it a text is accepted exactly if it is not empty, all of it is allowed and its
parentheses are paired, even if it is parentheses alone. A text that is not accepted breaks the
rule: it has only parentheses, or a character that is not allowed, or else a parenthesis without a
partner. -/
theorem keyword_accepted_iff (s : Text) :
    (s.getLast? ≠ some '\n' → (keywordFlaw? (some s) = none ↔ IsKeyword s)) ∧
    (keywordFlaw? (some (s ++ ['\n'])) = none ↔
      s ≠ [] ∧ (∀ c ∈ s, IsAllowed c) ∧ Balanced s) ∧
    ∀ f, keywordFlaw? (some s) = some f → ¬IsKeyword s ∧
      ((f = .emptyKeyword (some s) ∧ ∀ c ∈ s, isParen c = true) ∨
        (f = .foreignCharacter s ∧ ∃ c ∈ s, ¬IsAllowed c) ∨
        (∃ i, f = .strayClose i s ∨ f = .unclosed i s) ∧
          (∀ c ∈ dropLineEnd s, IsAllowed c) ∧ ¬Balanced s) := by
  refine ⟨keyword_of_getLast?, keyword_lineEnd_iff, fun f hf => ?_⟩
  rw [isKeyword_iff]
  obtain ⟨h, he⟩ | ⟨h, hw, hl⟩ | ⟨h, hw, hl⟩ := keywordFlaw?_cases s
  · rw [h] at hf
    cases hf
    refine ⟨?_, .inl ⟨rfl, he⟩⟩
    rintro ⟨-, ⟨c, hc, hp⟩, -⟩
    rw [he c hc] at hp
    cases hp
  · rw [h] at hf
    cases hf
    obtain ⟨c, hc, ha⟩ := exists_foreign hl hw
    exact ⟨fun hk => ha (hk.1 c hc), .inr (.inl ⟨rfl, c, hc, ha⟩)⟩
  · rw [h] at hf
    have hb : ¬Balanced s := by
      intro hb
      have hnone : unpaired s 0 [] s = none := unpaired_eq_none_iff.2 hb
      rw [hnone] at hf
      cases hf
    exact ⟨fun hk => hb hk.2.2, .inr (.inr ⟨unpaired_cases hf, hl.2, hb⟩)⟩

/-- A line end behind a keyword passes the check, though it is not allowed in one. -/
theorem line_end_accepted :
    "eco(nomy)".toList.getLast? ≠ some '\n' ∧ IsKeyword "eco(nomy)" ∧
      keywordFlaw? (some "eco(nomy)\n".toList) = none ∧ ¬IsKeyword "eco(nomy)\n" := by
  have hlast : "eco(nomy)".toList.getLast? ≠ some '\n' := by decide
  obtain ⟨hplain, hend, -⟩ := keyword_accepted_iff "eco(nomy)"
  have hk : IsKeyword "eco(nomy)" := (hplain hlast).1 (by decide)
  refine ⟨hlast, hk, hend.2 ⟨by decide, hk.allowed, by decide⟩, fun h => ?_⟩
  exact not_isAllowed_lineEnd (h.allowed '\n' (by decide))

end Rewards.Label
