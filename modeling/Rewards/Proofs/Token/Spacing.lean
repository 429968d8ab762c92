import Rewards.Proofs.Token.Splitting

/-!
Blanks between a comma and a group. The splitter steps over spaces only; where no other blank
stands there, a token that starts with a parenthesis is a balanced group.
-/

namespace Rewards.Token

open Text

/-- Between a comma and an opening parenthesis stand no blanks but spaces. -/
def Spaced (s : Text) : Prop :=
  ∀ a w b, s = a ++ ',' :: (w ++ '(' :: b) → (∀ c ∈ w, isBlank c) → ∀ c ∈ w, c = ' '

/-- No blank stands before an opening parenthesis at the start. -/
def Fresh (s : Text) : Prop := ∀ w b, s = w ++ '(' :: b → (∀ c ∈ w, isBlank c) → w = []

theorem Spaced.stretch {l s r : Text} (h : Spaced (l ++ (s ++ r))) : Spaced s := by
  rintro a w b rfl hw
  refine h (l ++ a) w (b ++ r) ?_ hw
  simp

theorem Spaced.trim {s : Text} (h : Spaced s) : Spaced (trim s) := by
  obtain ⟨l, r, hs, -, -⟩ := exists_trim s
  rw [hs] at h
  exact h.stretch

theorem fresh_of_trimmed {s : Text} (h : Trimmed s) : Fresh s := by
  rintro w b rfl hw
  cases w with
  | nil => rfl
  | cons c w =>
    have h1 := h.1 c rfl
    rw [hw c (by simp)] at h1
    cases h1

theorem exists_afterComma (s : Text) : ∃ a, s = a ++ afterComma s := by
  rw [afterComma]
  obtain ⟨-, h⟩ | ⟨a, b, rfl, -, h⟩ := cut_cases ',' s
  · exact ⟨s, by rw [h]; simp⟩
  · refine ⟨a ++ ',' :: b.takeWhile (· = ' '), ?_⟩
    rw [h, Option.getD_some, List.append_assoc, List.cons_append, List.takeWhile_append_dropWhile]

theorem Spaced.afterComma {s : Text} (h : Spaced s) : Spaced (afterComma s) := by
  obtain ⟨a, ha⟩ := exists_afterComma s
  rw [ha] at h
  refine Spaced.stretch (l := a) (r := []) ?_
  rwa [List.append_nil]

theorem Spaced.fresh_afterComma {s : Text} (h : Spaced s) : Fresh (Token.afterComma s) := by
  intro w b he hw
  rw [Token.afterComma] at he
  obtain ⟨-, hc⟩ | ⟨a, r, rfl, -, hc⟩ := cut_cases ',' s
  · rw [hc] at he
    exact absurd he.symm (by simp)
  · rw [hc, Option.getD_some] at he
    have hr : r = r.takeWhile (· = ' ') ++ w ++ '(' :: b := by
      rw [List.append_assoc, ← he, List.takeWhile_append_dropWhile]
    have hsp : ∀ c ∈ r.takeWhile (· = ' ') ++ w, c = ' ' := by
      refine h a _ b (by rw [← hr]) (List.forall_mem_append.2 ⟨fun c hc => ?_, hw⟩)
      have : c = ' ' := by simpa using List.mem_takeWhile_imp hc
      rw [this]
      decide
    cases w with
    | nil => rfl
    | cons c w =>
      have hc : c = ' ' := hsp c (by simp)
      have hd := List.head?_dropWhile_not (· = ' ') r
      rw [he] at hd
      simp [hc] at hd

/-- A token of a text: not empty and without blanks at its ends. -/
theorem trimmed_of_mem_split {whole rest : Text} {ts : List Text} (h : split whole rest = .ok ts) :
    ∀ t ∈ ts, t ≠ [] ∧ Trimmed t := by
  rw [split_eq_ok_iff] at h
  induction h with
  | nil => simp
  | group hc _ _ ih =>
    obtain ⟨b, rfl, -⟩ := nesting_of_closing hc
    exact List.forall_mem_cons.2 ⟨⟨List.cons_ne_nil _ _, trimmed_parenthesized b⟩, ih⟩
  | skip _ _ _ ih => exact ih
  | segment _ hs _ ih => exact List.forall_mem_cons.2 ⟨⟨hs, trimmed_trim _⟩, ih⟩

/-- A balanced text in parentheses, or a text that does not start with one. -/
def Clear (t : Text) : Prop :=
  (∃ b, t = '(' :: (b ++ [')']) ∧ Balanced b ∧ Spaced b) ∨ t.head? ≠ some '('

theorem clear_of_mem_split {whole rest : Text} {ts : List Text} (h : split whole rest = .ok ts)
    (hs : Spaced rest) (hf : Fresh rest) : ∀ t ∈ ts, Clear t := by
  rw [split_eq_ok_iff] at h
  induction h with
  | nil => simp
  | @group s body after us hc _ _ ih =>
    have happ := closing_append hc
    obtain ⟨b, rfl, hb⟩ := nesting_of_closing hc
    rw [← happ] at hs
    have hafter : Spaced after := by
      refine Spaced.stretch (l := '(' :: (b ++ [')'])) (r := []) ?_
      rwa [List.append_nil]
    refine List.forall_mem_cons.2 ⟨.inl ⟨b, rfl, hb, ?_⟩, ih hafter.afterComma
      hafter.fresh_afterComma⟩
    refine Spaced.stretch (l := ['(']) (r := [')'] ++ after) ?_
    simpa using hs
  | skip _ _ _ ih => exact ih hs.afterComma hs.fresh_afterComma
  | @segment c s us hparen _ _ ih =>
    refine List.forall_mem_cons.2 ⟨.inr fun hh => ?_, ih hs.afterComma hs.fresh_afterComma⟩
    -- The blanks that trimming takes away stood before the parenthesis already.
    obtain ⟨d, x, hx⟩ := List.exists_cons_of_ne_nil (l := segment (c :: s)) (by
      intro hnil
      rw [hnil] at hh
      cases hh)
    rw [hx] at hh
    obtain rfl : d = '(' := Option.some.inj hh
    obtain ⟨l, r, hl, hb, -⟩ := exists_trim (cut ',' (c :: s)).1
    rw [segment] at hx
    rw [hx] at hl
    obtain ⟨r', hr'⟩ : ∃ r', c :: s = l ++ '(' :: r' := by
      obtain ⟨-, hc⟩ | ⟨a, b, he, -, hc⟩ := cut_cases ',' (c :: s)
      · rw [hc] at hl
        exact ⟨x ++ r, by simpa using hl⟩
      · rw [hc] at hl
        have hl : a = l ++ ('(' :: x ++ r) := hl
        exact ⟨x ++ r ++ ',' :: b, by rw [he, hl]; simp⟩
    have hnil := hf l r' hr' hb
    rw [hnil] at hr'
    rw [(List.cons.inj hr').1] at hparen
    exact absurd hparen (by decide)

/-- The tokens of a text in which only spaces stand between a comma and a group. -/
theorem clear_of_mem_tokens {text : Text} {ts : List Text} (h : tokens text = .ok ts)
    (hs : Spaced text) : ∀ t ∈ ts, Clear t :=
  clear_of_mem_split h hs.trim (fresh_of_trimmed (trimmed_trim text))

/-- No blank but a space stands between a comma and what comes next. -/
def Even (s : Text) : Prop :=
  ∀ a w b, s = a ++ ',' :: (w ++ b) → (∀ c ∈ w, isBlank c) → ∀ c ∈ w, c = ' '

theorem Even.spaced {s : Text} (h : Even s) : Spaced s :=
  fun a w _ he => h a w _ he

/-- After every comma stand a space and a character that is not blank. -/
def Tight (s : Text) : Prop :=
  ∀ a b, s = a ++ ',' :: b → ∃ c b', b = ' ' :: c :: b' ∧ isBlank c = false

theorem Tight.even {s : Text} (h : Tight s) : Even s := by
  intro a w b he hw
  obtain ⟨c, b', hb, hc⟩ := h a _ he
  match w, hb with
  | [], hb => simp
  | [d], hb =>
    obtain rfl : d = ' ' := (List.cons.inj hb).1
    simp
  | d :: e :: w, hb =>
    simp only [List.cons_append, List.cons.injEq] at hb
    have := hw e (by simp)
    rw [hb.2.1, hc] at this
    cases this

theorem Tight.spaced {s : Text} (h : Tight s) : Spaced s :=
  h.even.spaced

theorem tight_of_not_mem {s : Text} (h : ',' ∉ s) : Tight s := by
  rintro a b rfl
  exact absurd (by simp) h

theorem Tight.append {s t : Text} (hs : Tight s) (ht : Tight t) : Tight (s ++ t) := by
  intro a b he
  obtain ⟨x, rfl, hx⟩ | ⟨x, rfl, hx⟩ := List.append_eq_append_iff.1 he
  · exact ht x b hx
  · cases x with
    | nil => exact ht [] b (by simpa using hx.symm)
    | cons c x =>
      obtain ⟨rfl, rfl⟩ := List.cons.inj hx
      obtain ⟨c, b', rfl, hc⟩ := hs a x rfl
      exact ⟨c, b' ++ t, rfl, hc⟩

theorem tight_joined {ts : List Text} (h : ∀ t ∈ ts, Tight t ∧ t ≠ [] ∧ Trimmed t) :
    Tight (joined ", ".toList ts) := by
  induction ts with
  | nil => exact tight_of_not_mem List.not_mem_nil
  | cons t ts ih =>
    obtain ⟨ht, hts⟩ := List.forall_mem_cons.1 h
    rw [joined_eq_append, behind]
    refine ht.1.append ?_
    split
    · exact tight_of_not_mem List.not_mem_nil
    · rename_i hne
      have hj := ih hts
      obtain ⟨u, us, rfl⟩ := List.exists_cons_of_ne_nil hne
      obtain ⟨-, hu, htr⟩ := hts u (by simp)
      obtain ⟨c, x, rfl⟩ := List.exists_cons_of_ne_nil hu
      rw [joined_eq_append] at hj ⊢
      intro a b he
      rcases a with _ | ⟨d, _ | ⟨e, a⟩⟩
      · obtain rfl := (List.cons.inj he).2
        exact ⟨c, x ++ behind us, rfl, htr.1 c rfl⟩
      · simp only [List.cons_append, List.cons.injEq, List.nil_append] at he
        exact absurd he.2.1 (by decide)
      · simp only [List.cons_append, List.cons.injEq] at he
        exact hj a b (by simpa using he.2.2)

theorem Tight.parenthesized {s : Text} (h : Tight s) : Tight ('(' :: (s ++ [')'])) :=
  (tight_of_not_mem (s := ['(']) (by decide)).append (h.append (tight_of_not_mem (by decide)))

end Rewards.Token
