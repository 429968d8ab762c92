import Rewards.Proofs.Token.Nesting

/-!
Splitting descriptors. Tokens put together with a comma and a space are split into the same tokens,
and splitting any text keeps its parentheses in order.
-/

namespace Rewards.Token

open Text

/-- A text without commas and without blanks at its ends. -/
structure Plain (t : Text) : Prop where
  ne_nil : t ≠ []
  trimmed : Trimmed t
  comma : ',' ∉ t

/-- A balanced text in parentheses. -/
def Grouped (t : Text) : Prop := ∃ b, t = '(' :: (b ++ [')']) ∧ Balanced b

/-- A text that stands for itself between commas. -/
def Whole (t : Text) : Prop := Grouped t ∨ Plain t ∧ ∀ c ∈ t.head?, isParen c = false

theorem trimmed_parenthesized (b : Text) : Trimmed ('(' :: (b ++ [')'])) := by
  constructor
  · simp; decide
  · rw [← List.cons_append, List.getLast?_concat]
    simp; decide

theorem Grouped.trimmed {t : Text} (h : Grouped t) : Trimmed t := by
  obtain ⟨b, rfl, -⟩ := h
  exact trimmed_parenthesized b

theorem Whole.trimmed {t : Text} (h : Whole t) : Trimmed t := by
  obtain h | h := h
  · exact h.trimmed
  · exact h.1.trimmed

theorem Whole.ne_nil {t : Text} (h : Whole t) : t ≠ [] := by
  obtain ⟨b, rfl, -⟩ | h := h
  · exact List.cons_ne_nil _ _
  · exact h.1.ne_nil

section Equations

variable {whole s after body : Text} {c : Char}

theorem split_group (h : closing 1 s = some (body, after)) (hs : segment after = []) :
    split whole ('(' :: s) =
      (split whole (afterComma after)).map (('(' :: body) :: ·) := by
  rw [split, if_neg (by decide), if_pos rfl]
  split
  · simp_all
  · simp_all

theorem split_skip (hc : isParen c = false) (hs : segment (c :: s) = []) :
    split whole (c :: s) = split whole (afterComma (c :: s)) := by
  simp only [isParen, Bool.or_eq_false_iff, decide_eq_false_iff_not] at hc
  rw [split, if_neg hc.2, if_neg hc.1, if_pos hs]

theorem split_segment (hc : isParen c = false) (hs : segment (c :: s) ≠ []) :
    split whole (c :: s) =
      (split whole (afterComma (c :: s))).map (segment (c :: s) :: ·) := by
  simp only [isParen, Bool.or_eq_false_iff, decide_eq_false_iff_not] at hc
  rw [split, if_neg hc.2, if_neg hc.1, if_neg hs]

end Equations

/-- A text without a flaw and its tokens, by what stands at the front of the text. -/
inductive Splits : Text → List Text → Prop
  | nil : Splits [] []
  | group {s body after : Text} {ts : List Text} (hc : closing 1 s = some (body, after))
      (hs : segment after = []) (h : Splits (afterComma after) ts) :
      Splits ('(' :: s) (('(' :: body) :: ts)
  | skip {c : Char} {s : Text} {ts : List Text} (hc : isParen c = false)
      (hs : segment (c :: s) = []) (h : Splits (afterComma (c :: s)) ts) : Splits (c :: s) ts
  | segment {c : Char} {s : Text} {ts : List Text} (hc : isParen c = false)
      (hs : segment (c :: s) ≠ []) (h : Splits (afterComma (c :: s)) ts) :
      Splits (c :: s) (Token.segment (c :: s) :: ts)

/-- The whole text matters only for what is said about a flaw. -/
theorem split_eq_ok_iff {whole rest : Text} {ts : List Text} :
    split whole rest = .ok ts ↔ Splits rest ts := by
  constructor
  · intro h
    fun_induction split whole rest generalizing ts with
    | case1 =>
      cases h
      exact .nil
    | case2 | case3 | case4 => cases h
    | case5 s body after hc hs _ _ _ ih =>
      obtain ⟨us, hu, rfl⟩ := Outcome.map_eq_ok_iff.1 h
      exact .group hc (not_not.1 hs) (ih hu)
    | case6 c s hclose hopen _ hs ih =>
      exact .skip (by simp [isParen, hclose, hopen]) hs (ih h)
    | case7 c s hclose hopen _ hs ih =>
      obtain ⟨us, hu, rfl⟩ := Outcome.map_eq_ok_iff.1 h
      exact .segment (by simp [isParen, hclose, hopen]) hs (ih hu)
  · intro h
    induction h with
    | nil => rw [split]
    | group hc hs _ ih =>
      rw [split_group hc hs, ih]
      rfl
    | skip hc hs _ ih => rw [split_skip hc hs, ih]
    | segment hc hs _ ih =>
      rw [split_segment hc hs, ih]
      rfl

/-- What stands behind a token when `ts` follow. -/
def behind (ts : List Text) : Text := if ts = [] then [] else ',' :: ' ' :: joined ", ".toList ts

theorem joined_eq_append (t : Text) (ts : List Text) :
    joined ", ".toList (t :: ts) = t ++ behind ts := by
  cases ts with
  | nil => exact (List.append_nil t).symm
  | cons u us => exact List.append_assoc ..

theorem segment_append_behind {t : Text} (h : ',' ∉ t) (ts : List Text) :
    segment (t ++ behind ts) = trim t := by
  rw [segment, behind]
  split
  · rw [List.append_nil, cut_not_mem h]
  · rw [cut_append h]

theorem head?_joined {t : Text} (ht : t ≠ []) (ts : List Text) :
    (joined ", ".toList (t :: ts)).head? = t.head? := by
  rw [joined_eq_append, List.head?_append_of_ne_nil _ ht]

theorem afterComma_append_behind {t : Text} (h : ',' ∉ t) {ts : List Text}
    (hts : ∀ u ∈ ts, Whole u) : afterComma (t ++ behind ts) = joined ", ".toList ts := by
  rw [afterComma, behind]
  split
  · rename_i hnil
    rw [List.append_nil, cut_not_mem h, hnil]
    rfl
  · rw [cut_append h, Option.getD_some, List.dropWhile_cons_of_pos (by decide)]
    refine dropWhile_eq_self fun c hc => ?_
    cases ts with
    | nil => cases hc
    | cons u us =>
      obtain ⟨hu, -⟩ := List.forall_mem_cons.1 hts
      rw [head?_joined hu.ne_nil] at hc
      have := hu.trimmed.1 c hc
      rw [decide_eq_false_iff_not]
      rintro rfl
      exact absurd this (by decide)

theorem split_joined (whole : Text) {ts : List Text} (h : ∀ t ∈ ts, Whole t) :
    split whole (joined ", ".toList ts) = .ok ts := by
  induction ts with
  | nil => rw [joined, split]
  | cons t ts ih =>
    obtain ⟨ht, hts⟩ := List.forall_mem_cons.1 h
    rw [joined_eq_append]
    obtain ⟨b, rfl, hb⟩ | ⟨hp, hhead⟩ := ht
    · have hc : closing 1 (b ++ [')'] ++ behind ts) = some (b ++ [')'], behind ts) := by
        rw [List.append_assoc]
        exact closing_of_nesting hb (behind ts)
      have hs : segment (behind ts) = [] := segment_append_behind List.not_mem_nil ts
      have ha := afterComma_append_behind List.not_mem_nil hts
      rw [List.nil_append] at ha
      rw [List.cons_append, split_group hc hs, ha, ih hts]
      rfl
    · obtain ⟨c, u, rfl⟩ := List.exists_cons_of_ne_nil hp.ne_nil
      have hs := segment_append_behind hp.comma ts
      have ha := afterComma_append_behind hp.comma hts
      rw [trim_of_trimmed hp.trimmed] at hs
      rw [List.cons_append] at hs ha ⊢
      rw [split_segment (hhead c rfl) (by rw [hs]; exact hp.ne_nil), hs, ha, ih hts]
      rfl

/-- Joined tokens are split again. -/
theorem tokens_joined {ts : List Text} (h : ∀ t ∈ ts, Whole t) :
    tokens (joined ", ".toList ts) = .ok ts := by
  rw [tokens, trim_of_trimmed (trimmed_joined fun t ht => ⟨(h t ht).ne_nil, (h t ht).trimmed⟩)]
  exact split_joined _ h

theorem parens_dropSpaces (s : Text) : parens (s.dropWhile (· = ' ')) = parens s := by
  induction s with
  | nil => rfl
  | cons c s ih =>
    by_cases h : c = ' '
    · rw [List.dropWhile_cons_of_pos (by simpa using h), ih, h, parens_cons_of_not (by decide)]
    · rw [List.dropWhile_cons_of_neg (by simpa using h)]

theorem parens_eq_segment (s : Text) : parens s = parens (segment s) ++ parens (afterComma s) := by
  rw [segment, afterComma, parens_trim, parens_dropSpaces]
  obtain ⟨-, h⟩ | ⟨a, b, rfl, -, h⟩ := cut_cases ',' s
  · rw [h]
    exact (List.append_nil _).symm
  · rw [h, parens_append, parens_cons_of_not (by decide)]
    rfl

theorem parens_split {whole rest : Text} {ts : List Text} (h : split whole rest = .ok ts) :
    (ts.map parens).flatten = parens rest := by
  rw [split_eq_ok_iff] at h
  induction h with
  | nil => rfl
  | @group s body after us hc hs _ ih =>
    have ha := parens_eq_segment after
    rw [hs, parens_nil, List.nil_append] at ha
    rw [← closing_append hc, List.map_cons, List.flatten_cons, ih, ← ha, ← parens_append]
    rfl
  | @skip c s us _ hs _ ih =>
    rw [ih, parens_eq_segment (c :: s), hs, parens_nil, List.nil_append]
  | segment _ _ _ ih =>
    rw [List.map_cons, List.flatten_cons, ih, ← parens_eq_segment]

/-- The tokens of a text hold its parentheses. -/
theorem parens_tokens {text : Text} {ts : List Text} (h : tokens text = .ok ts) :
    (ts.map parens).flatten = parens text := by
  rw [parens_split h, parens_trim]

theorem parens_joined (ts : List Text) :
    parens (joined ", ".toList ts) = (ts.map parens).flatten := by
  induction ts with
  | nil => rfl
  | cons t ts ih =>
    rw [joined_eq_append, parens_append, List.map_cons, List.flatten_cons, ← ih, behind]
    split
    · rename_i h
      rw [h]
      rfl
    · rfl

theorem balanced_joined {ts : List Text} (h : ∀ t ∈ ts, Balanced t) :
    Balanced (joined ", ".toList ts) := by
  induction ts with
  | nil => rfl
  | cons t ts ih =>
    obtain ⟨ht, hts⟩ := List.forall_mem_cons.1 h
    rw [joined_eq_append, behind]
    refine ht.append ?_
    split
    · rfl
    · exact (balanced_congr rfl).1 (ih hts)

end Rewards.Token
