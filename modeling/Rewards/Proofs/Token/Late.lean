import Rewards.Proofs.Token.Gaps

/-!
Late tokens. Behind a comma and a blank that is no space the splitter takes all up to the next comma
as a token, whatever parentheses stand in it; every other token that starts with a parenthesis is a
whole group.
-/

namespace Rewards.Token

open Text

theorem closing_append_right {d : Nat} {s g r : Text} (h : closing d s = some (g, r)) (x : Text) :
    closing d (s ++ x) = some (g, r ++ x) := by
  induction s generalizing d g with
  | nil => cases h
  | cons c s ih =>
    rw [List.cons_append, closing]
    rw [closing] at h
    split at h
    · rename_i hc
      rw [if_pos hc]
      cases h
      rfl
    · rename_i hc
      rw [if_neg hc]
      obtain ⟨⟨g', r'⟩, h', he⟩ := Option.map_eq_some_iff.1 h
      cases he
      simp only [ih h', Option.map_some]

section Comma

variable {r b : Text}

/-- A comma behind a text with blanks before it. -/
theorem segment_append_comma (s : Text) (hr : ∀ c ∈ r, isBlank c) (b : Text) :
    segment (s ++ (r ++ ',' :: b)) = segment s := by
  have hr' : ',' ∉ r := comma_not_mem_of_blank hr
  obtain ⟨hs, h⟩ | ⟨a, d, rfl, ha, h⟩ := cut_cases ',' s
  · rw [segment, segment, ← List.append_assoc, cut_append (by simp [hs, hr']), h]
    exact trim_append_blank hr
  · rw [segment, segment, List.append_assoc, List.cons_append, cut_append ha, cut_append ha]

theorem exists_afterComma_append {s : Text} (h : ',' ∈ s) (hr : ∀ c ∈ r, isBlank c) (b : Text) :
    ∃ r', (∀ c ∈ r', isBlank c) ∧ afterComma (s ++ (r ++ ',' :: b)) =
      afterComma s ++ (r' ++ ',' :: b) := by
  obtain ⟨hs, -⟩ | ⟨a, d, rfl, ha, hc⟩ := cut_cases ',' s
  · exact absurd h hs
  · rw [afterComma, afterComma, hc, List.append_assoc, List.cons_append, cut_append ha,
      Option.getD_some, Option.getD_some, List.dropWhile_append]
    split
    · rename_i hd
      -- The spaces before the blanks go on in them.
      rw [List.isEmpty_iff.1 hd, List.dropWhile_append]
      split
      · exact ⟨[], by simp, rfl⟩
      · exact ⟨_, fun c hc => hr c ((List.dropWhile_sublist _).subset hc), rfl⟩
    · exact ⟨r, hr, rfl⟩

theorem afterComma_append_of_not_mem {s : Text} (h : ',' ∉ s) (hr : ∀ c ∈ r, isBlank c) (b : Text) :
    afterComma (s ++ (r ++ ',' :: b)) = b.dropWhile (· = ' ') := by
  have hr' : ',' ∉ r := comma_not_mem_of_blank hr
  rw [afterComma, ← List.append_assoc, cut_append (by simp [h, hr'])]
  rfl

theorem split_blank_comma {whole : Text} (hr : ∀ c ∈ r, isBlank c) (b : Text) :
    split whole (r ++ ',' :: b) = split whole (b.dropWhile (· = ' ')) := by
  have hs : segment (r ++ ',' :: b) = [] := segment_append_comma [] hr b
  have ha := afterComma_append_of_not_mem List.not_mem_nil hr b
  rw [List.nil_append] at ha
  cases r with
  | nil => rw [← ha]; exact split_skip (by decide) hs
  | cons c r =>
    rw [← ha]
    exact split_skip (isParen_of_isBlank (hr c List.mem_cons_self)) hs

/-- A comma ends what stands before it: the tokens of both parts are those of the whole. -/
theorem split_append {whole whole' a : Text} {ts : List Text} (h : split whole a = .ok ts)
    (hr : ∀ c ∈ r, isBlank c) (b : Text) : split whole' (a ++ (r ++ ',' :: b)) =
      (split whole' (b.dropWhile (· = ' '))).map (ts ++ ·) := by
  -- What is left after the first comma of `s` is split as before, also if that comma is the new one.
  have hleft : ∀ {s : Text} {us : List Text}, Splits (afterComma s) us →
      (∀ r', (∀ c ∈ r', isBlank c) → split whole' (afterComma s ++ (r' ++ ',' :: b)) =
        (split whole' (b.dropWhile (· = ' '))).map (us ++ ·)) →
      ∀ r, (∀ c ∈ r, isBlank c) → split whole' (afterComma (s ++ (r ++ ',' :: b))) =
        (split whole' (b.dropWhile (· = ' '))).map (us ++ ·) := by
    intro s us hu ih r hr
    by_cases hs : ',' ∈ s
    · obtain ⟨r', hr', he⟩ := exists_afterComma_append hs hr b
      rw [he, ih r' hr']
    · have hnil : afterComma s = [] := by
        rw [afterComma, cut_not_mem hs]
        rfl
      have h := ih [] (by simp)
      rw [hnil, List.nil_append, split_blank_comma (by simp)] at h
      rw [afterComma_append_of_not_mem hs hr]
      exact h
  rw [split_eq_ok_iff] at h
  induction h generalizing r with
  | nil =>
    rw [List.nil_append, split_blank_comma hr]
    cases split whole' (b.dropWhile (· = ' ')) <;> rfl
  | @group s body after us hc hs hu ih =>
    have hseg : segment (after ++ (r ++ ',' :: b)) = [] := by
      rw [segment_append_comma after hr, hs]
    rw [List.cons_append, split_group (closing_append_right hc _) hseg,
      hleft hu (fun r' hr' => ih hr') r hr]
    cases split whole' (b.dropWhile (· = ' ')) <;> rfl
  | @skip c s us hc hs hu ih =>
    have hseg := segment_append_comma (c :: s) hr b
    rw [hs, List.cons_append] at hseg
    rw [List.cons_append, split_skip hc hseg, ← List.cons_append,
      hleft hu (fun r' hr' => ih hr') r hr]
  | @segment c s us hc hs hu ih =>
    have hseg := segment_append_comma (c :: s) hr b
    rw [List.cons_append] at hseg
    rw [List.cons_append, split_segment hc (by rw [hseg]; exact hs), hseg, ← List.cons_append,
      hleft hu (fun r' hr' => ih hr') r hr]
    cases split whole' (b.dropWhile (· = ' ')) <;> rfl

end Comma

/-- Trimming reaches over the comma only where nothing but blanks stands before it. -/
theorem exists_trim_append {a b : Text} (hb : ∀ c ∈ (',' :: b).getLast?, isBlank c = false) :
    ∃ r, (∀ c ∈ r, isBlank c) ∧ trim (a ++ ',' :: b) = trim a ++ (r ++ ',' :: b) := by
  obtain ⟨r, hr, hblank⟩ := exists_dropTail isBlank (a.dropWhile isBlank)
  have hdrop : (a ++ ',' :: b).dropWhile isBlank = a.dropWhile isBlank ++ ',' :: b := by
    rw [List.dropWhile_append]
    split
    · rename_i h
      rw [List.isEmpty_iff.1 h]
      rfl
    · rfl
  refine ⟨r, hblank, ?_⟩
  rw [trim, hdrop, trim, ← List.append_assoc, ← hr]
  have h := dropTail_append (p := isBlank) (t := a.dropWhile isBlank ++ ',' :: b) (r := [])
    (by simp) (by
      rw [List.getLast?_append_of_ne_nil _ (List.cons_ne_nil ',' b)]
      exact hb)
  rwa [List.append_nil] at h

/-- What stands behind a comma is split on its own, if the text does not end in a blank. -/
theorem tokens_append {a b : Text} {ts : List Text} (h : tokens a = .ok ts)
    (hb : ∀ c ∈ (',' :: b).getLast?, isBlank c = false) : tokens (a ++ ',' :: b) =
      (split (trim (a ++ ',' :: b)) (b.dropWhile (· = ' '))).map (ts ++ ·) := by
  obtain ⟨r, hr, htrim⟩ := exists_trim_append (a := a) hb
  rw [tokens, ← split_append h hr b, ← htrim]

/-- A word behind blanks is taken as it is. -/
theorem split_late {whole w t : Text} {c : Char} (hw : ∀ d ∈ c :: w, isBlank d) (hne : t ≠ [])
    (ht : Trimmed t) (hcomma : ',' ∉ t) : split whole (c :: w ++ t) = .ok [t] := by
  have hmem : ',' ∉ c :: w ++ t := by
    rw [List.mem_append, not_or]
    exact ⟨comma_not_mem_of_blank hw, hcomma⟩
  have hseg : segment (c :: w ++ t) = t := by
    have h := trim_append hw ht (r := []) (by simp)
    rw [List.append_nil] at h
    rw [segment, cut_not_mem hmem]
    exact h
  have hafter : afterComma (c :: w ++ t) = [] := by
    rw [afterComma, cut_not_mem hmem]
    rfl
  rw [List.cons_append] at hseg hafter ⊢
  rw [split_segment (isParen_of_isBlank (hw c List.mem_cons_self)) (by rw [hseg]; exact hne), hafter,
    hseg, split]
  rfl

theorem tokens_late {a w t : Text} {ts : List Text} (h : tokens a = .ok ts)
    (hw : ∀ c ∈ w, isBlank c) (hlate : ∃ c ∈ w, c ≠ ' ') (hne : t ≠ []) (ht : Trimmed t)
    (hcomma : ',' ∉ t) : tokens (a ++ ',' :: (w ++ t)) = .ok (ts ++ [t]) := by
  have hlast : ∀ c ∈ (',' :: (w ++ t)).getLast?, isBlank c = false := by
    rw [← List.cons_append, List.getLast?_append_of_ne_nil _ hne]
    exact ht.2
  obtain ⟨d, v, hv⟩ : ∃ d v, w.dropWhile (· = ' ') = d :: v := by
    obtain ⟨c, hc, hcs⟩ := hlate
    refine List.exists_cons_of_ne_nil fun hnil => hcs ?_
    simpa using List.dropWhile_eq_nil_iff.1 hnil c hc
  have hdrop : (w ++ t).dropWhile (· = ' ') = d :: v ++ t := by
    rw [List.dropWhile_append, hv]
    rfl
  have hblank : ∀ c ∈ d :: v, isBlank c := fun c hc => hw c (by
    rw [← hv] at hc
    exact (List.dropWhile_sublist _).subset hc)
  rw [tokens_append h hlast, hdrop, split_late hblank hne ht hcomma]
  rfl

theorem Even.not_late {a g b : Text} (h : Even (a ++ (g ++ b))) (hg : IsGap g) : ¬Late g := by
  rintro ⟨w, ⟨v, rfl⟩, hw, c, hc, hne⟩
  refine hne (h (a ++ v) w b (by simp) (fun d hd => ?_) c hc)
  obtain rfl | hb := hg d (by simp [hd])
  · exact absurd hd hw
  · exact hb

/-- The gap before each token of a woven text is a part of that text. -/
theorem exists_woven_of_mem_zip {gaps ts : List Text} {p : Text × Text} (h : p ∈ gaps.zip ts) :
    ∃ a b, woven gaps ts = a ++ (p.1 ++ b) := by
  induction gaps generalizing ts with
  | nil => simp at h
  | cons g gaps ih =>
    cases ts with
    | nil => simp at h
    | cons t ts =>
      rw [List.zip_cons_cons] at h
      obtain rfl | h := List.mem_cons.1 h
      · exact ⟨[], _, rfl⟩
      · obtain ⟨a, b, he⟩ := ih h
        exact ⟨g ++ (t ++ a), b, by rw [woven, he]; simp⟩

theorem sound_of_even {text : Text} {ts : List Text} (h : tokens text = .ok ts) (he : Even text) :
    ∀ t ∈ ts, Sound t := by
  obtain ⟨gaps, hlaid, hplaced⟩ := exists_gaps_of_tokens h
  intro t ht
  have hzip : (gaps.zip ts).map Prod.snd = ts :=
    List.map_snd_zip (by rw [hlaid.length]; exact Nat.le_succ _)
  rw [← hzip] at ht
  obtain ⟨p, hp, rfl⟩ := List.mem_map.1 ht
  obtain ⟨a, b, hw⟩ := exists_woven_of_mem_zip hp
  rw [hlaid.text_eq, hw] at he
  exact (hplaced p hp).2 (he.not_late (hlaid.gap _ (List.of_mem_zip hp).1))

/-- Groups stay whole unless they are late. Among the tokens of a text those that do not stand behind a
comma and a blank other than a space are sound: they start with no closing parenthesis, and with an
opening one only if its partner ends them. So all tokens of a text are sound that has nothing but
spaces between its commas and what comes next. Behind another blank every word without a comma is a
token as it is, whatever parentheses it has. -/
theorem groups_whole_unless_late {text : Text} {ts : List Text} (h : tokens text = .ok ts) :
    (∃ gaps, Laid text ts gaps ∧
      ∀ p ∈ gaps.zip ts, (Late p.1 → ',' ∉ p.2) ∧ (¬Late p.1 → Sound p.2)) ∧
    (Even text → ∀ t ∈ ts, Sound t) ∧
    ∀ w t, (∀ c ∈ w, isBlank c) → (∃ c ∈ w, c ≠ ' ') → t ≠ [] → Trimmed t → ',' ∉ t →
      tokens (text ++ ',' :: (w ++ t)) = .ok (ts ++ [t]) :=
  ⟨exists_gaps_of_tokens h, sound_of_even h,
    fun _ _ hw hlate hne ht hcomma => tokens_late h hw hlate hne ht hcomma⟩

/-- A stray parenthesis behind a group, a comma and a tab is a token. -/
theorem stray_close_after_tab :
    tokens "(a, b),\t)" = .ok ["(a, b)".toList, [')']] ∧ ¬Sound [')'] ∧ Sound "(a, b)" := by
  have ha : tokens "(a, b)" = .ok ["(a, b)".toList] := by decide +kernel
  obtain ⟨-, hsound, hlate⟩ := groups_whole_unless_late ha
  have heven : Even "(a, b)" := by
    have hj : Tight (joined ", ".toList [['a'], ['b']]) := tight_joined fun t ht => by
      obtain rfl | rfl : t = ['a'] ∨ t = ['b'] := by simpa using ht
      all_goals exact ⟨tight_of_not_mem (by decide), by decide, by decide, by decide⟩
    exact hj.parenthesized.even
  have ht := hlate ['\t'] [')'] (by decide) ⟨'\t', by decide, by decide⟩ (by decide) (by decide)
    (by decide)
  exact ⟨ht, fun h => h.1 rfl, hsound heven _ (by simp)⟩

end Rewards.Token
