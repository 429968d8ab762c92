import Rewards.Proofs.Text.Cutting
import Rewards.Text.Digit
import Rewards.Token

/-!
Parentheses of a text. A group token ends where the text in its parentheses is balanced, and
whether a text is balanced depends on its parentheses alone.
-/

namespace Rewards.Token

open Text

def isParen (c : Char) : Bool := c = '(' || c = ')'

/-- The parentheses of a text, in order. -/
def parens (s : Text) : Text := s.filter isParen

@[simp] theorem parens_nil : parens [] = [] := rfl

@[simp] theorem parens_append (s t : Text) : parens (s ++ t) = parens s ++ parens t :=
  List.filter_append ..

theorem parens_cons_of_isParen {c : Char} (h : isParen c) (s : Text) :
    parens (c :: s) = c :: parens s := List.filter_cons_of_pos h

theorem parens_cons_of_not {c : Char} (h : isParen c = false) (s : Text) :
    parens (c :: s) = parens s := List.filter_cons_of_neg (by simp [h])

theorem parens_eq_nil_iff {s : Text} : parens s = [] ↔ ∀ c ∈ s, isParen c = false := by
  simp [parens, List.filter_eq_nil_iff]

theorem isBlank_of_isParen {c : Char} (h : isParen c) : isBlank c = false := by
  simp only [isParen, Bool.or_eq_true, decide_eq_true_eq] at h
  obtain rfl | rfl := h <;> decide

theorem isParen_of_isBlank {c : Char} (h : isBlank c) : isParen c = false := by
  by_contra hp
  rw [isBlank_of_isParen (by simpa using hp)] at h
  exact absurd h Bool.false_ne_true

theorem isParen_of_isAsciiDigit {c : Char} (h : isAsciiDigit c) : isParen c = false := by
  by_contra hp
  simp only [isParen, Bool.not_eq_false, Bool.or_eq_true, decide_eq_true_eq] at hp
  obtain rfl | rfl := hp <;> exact absurd h (by decide)

theorem parens_trim (s : Text) : parens (trim s) = parens s :=
  filter_trim (fun _ => isParen_of_isBlank) s

theorem parens_flatten (ts : List Text) : parens ts.flatten = (ts.map parens).flatten := by
  induction ts with
  | nil => rfl
  | cons t ts ih => rw [List.flatten_cons, parens_append, ih]; rfl

theorem parens_words (s : Text) : ((words s).map parens).flatten = parens s := by
  rw [← parens_flatten, flatten_words, parens, parens, List.filter_filter]
  refine List.filter_congr fun c _ => ?_
  cases h : isParen c with
  | true => simp [isBlank_of_isParen h]
  | false => simp

/-- The number of open parentheses after the text, if it closes only what is open. -/
def nesting : Nat → Text → Option Nat
  | d, [] => some d
  | d, c :: s =>
    if c = '(' then nesting (d + 1) s
    else if c = ')' then
      match d with
      | 0 => none
      | d + 1 => nesting d s
    else nesting d s

/-- Every parenthesis has its partner. -/
def Balanced (s : Text) : Prop := nesting 0 s = some 0

instance (s : Text) : Decidable (Balanced s) := inferInstanceAs (Decidable (_ = _))

theorem nesting_open (d : Nat) (s : Text) : nesting d ('(' :: s) = nesting (d + 1) s := rfl

theorem nesting_close (d : Nat) (s : Text) : nesting (d + 1) (')' :: s) = nesting d s := rfl

theorem nesting_other {c : Char} (h : isParen c = false) (d : Nat) (s : Text) :
    nesting d (c :: s) = nesting d s := by
  simp only [isParen, Bool.or_eq_false_iff, decide_eq_false_iff_not] at h
  rw [nesting.eq_def]
  simp only [if_neg h.1, if_neg h.2]

theorem paren_cases (c : Char) : c = '(' ∨ c = ')' ∨ isParen c = false := by
  by_cases h1 : c = '('
  · exact .inl h1
  · by_cases h2 : c = ')'
    · exact .inr (.inl h2)
    · exact .inr (.inr (by simp [isParen, h1, h2]))

theorem nesting_parens (d : Nat) (s : Text) : nesting d (parens s) = nesting d s := by
  induction s generalizing d with
  | nil => rfl
  | cons c s ih =>
    obtain rfl | rfl | hc := paren_cases c
    · rw [parens_cons_of_isParen rfl, nesting_open, nesting_open, ih]
    · rw [parens_cons_of_isParen rfl]
      cases d with
      | zero => rfl
      | succ d => rw [nesting_close, nesting_close, ih]
    · rw [parens_cons_of_not hc, nesting_other hc, ih]

/-- Balance depends on the parentheses alone. -/
theorem balanced_congr {s t : Text} (h : parens s = parens t) : Balanced s ↔ Balanced t := by
  rw [Balanced, Balanced, ← nesting_parens 0 s, ← nesting_parens 0 t, h]

theorem balanced_of_parens_eq_nil {s : Text} (h : parens s = []) : Balanced s :=
  (balanced_congr (t := []) h).2 rfl

theorem nesting_append {d e : Nat} {s : Text} (h : nesting d s = some e) (t : Text) :
    nesting d (s ++ t) = nesting e t := by
  induction s generalizing d with
  | nil =>
    obtain rfl : d = e := by simpa [nesting] using h
    rfl
  | cons c s ih =>
    rw [List.cons_append]
    obtain rfl | rfl | hc := paren_cases c
    · rw [nesting_open] at h ⊢
      exact ih h
    · cases d with
      | zero => cases h
      | succ d =>
        rw [nesting_close] at h ⊢
        exact ih h
    · rw [nesting_other hc] at h ⊢
      exact ih h

theorem nesting_add {d e : Nat} {s : Text} (h : nesting d s = some e) (k : Nat) :
    nesting (d + k) s = some (e + k) := by
  induction s generalizing d with
  | nil => simpa [nesting] using h
  | cons c s ih =>
    obtain rfl | rfl | hc := paren_cases c
    · rw [nesting_open] at h ⊢
      rw [show d + k + 1 = d + 1 + k by omega]
      exact ih h
    · cases d with
      | zero => cases h
      | succ d =>
        rw [nesting_close] at h
        rw [show d + 1 + k = d + k + 1 by omega, nesting_close]
        exact ih h
    · rw [nesting_other hc] at h ⊢
      exact ih h

theorem Balanced.append {s t : Text} (hs : Balanced s) (ht : Balanced t) : Balanced (s ++ t) := by
  rw [Balanced, nesting_append hs]
  exact ht

theorem forall_prefix_cons {p : Text → Prop} {c : Char} {s : Text} :
    (∀ u, u <+: c :: s → p u) ↔ p [] ∧ ∀ u, u <+: s → p (c :: u) := by
  constructor
  · intro h
    exact ⟨h [] List.nil_prefix, fun u hu => h _ (List.cons_prefix_cons.2 ⟨rfl, hu⟩)⟩
  · rintro ⟨hnil, h⟩ u hu
    rcases List.prefix_cons_iff.1 hu with rfl | ⟨v, rfl, hv⟩
    · exact hnil
    · exact h v hv

/-- What closes has been open before, by the text or around it. -/
theorem nesting_eq_some_iff {d e : Nat} {s : Text} :
    nesting d s = some e ↔
      (∀ u, u <+: s → u.count ')' ≤ d + u.count '(') ∧ d + s.count '(' = e + s.count ')' := by
  induction s generalizing d with
  | nil => simp [nesting]
  | cons c s ih =>
    rw [forall_prefix_cons]
    rcases paren_cases c with rfl | rfl | hc
    · have h (u : Text) : ('(' :: u).count ')' = u.count ')' := List.count_cons_of_ne (by decide)
      rw [nesting_open, ih]
      simp only [h, List.count_cons_self, List.count_nil, Nat.zero_le, true_and,
        Nat.add_right_comm d, Nat.add_assoc]
    · have h (u : Text) : (')' :: u).count '(' = u.count '(' := List.count_cons_of_ne (by decide)
      simp only [h, List.count_cons_self, List.count_nil, Nat.zero_le, true_and]
      cases d with
      | zero =>
        have hnone : nesting 0 (')' :: s) = none := rfl
        rw [hnone]
        apply iff_of_false (by simp)
        intro h
        have := h.1 [] List.nil_prefix
        simp at this
      | succ d =>
        have hle (u : Text) :
            u.count ')' + 1 ≤ d + 1 + u.count '(' ↔ u.count ')' ≤ d + u.count '(' := by
          omega
        simp only [nesting_close, ih, hle]
        refine and_congr_right fun _ => ?_
        omega
    · simp only [isParen, Bool.or_eq_false_iff, decide_eq_false_iff_not] at hc
      have h1 (u : Text) : (c :: u).count '(' = u.count '(' := List.count_cons_of_ne hc.1
      have h2 (u : Text) : (c :: u).count ')' = u.count ')' := List.count_cons_of_ne hc.2
      rw [nesting_other (by simp [isParen, hc]), ih]
      simp only [h1, h2, List.count_nil, Nat.zero_le, true_and]

theorem exists_nesting_of_append {d e : Nat} {s t : Text} (h : nesting d (s ++ t) = some e) :
    ∃ k, nesting d s = some k ∧ nesting k t = some e := by
  obtain ⟨hle, -⟩ := nesting_eq_some_iff.1 h
  have hs : nesting d s = some (d + s.count '(' - s.count ')') := by
    refine nesting_eq_some_iff.2 ⟨fun u hu => hle u (hu.trans (List.prefix_append s t)), ?_⟩
    have := hle s (List.prefix_append s t)
    omega
  rw [nesting_append hs] at h
  exact ⟨_, hs, h⟩

theorem balanced_iff {s : Text} :
    Balanced s ↔ (∀ u, u <+: s → u.count ')' ≤ u.count '(') ∧ s.count '(' = s.count ')' := by
  simp only [Balanced, nesting_eq_some_iff, Nat.zero_add]

theorem parens_parenthesized (s : Text) :
    parens ('(' :: (s ++ [')'])) = '(' :: (parens s ++ [')']) := by
  rw [parens_cons_of_isParen rfl, parens_append]
  rfl

theorem Balanced.parenthesized {s : Text} (h : Balanced s) : Balanced ('(' :: (s ++ [')'])) := by
  rw [Balanced, nesting_open, nesting_append (nesting_add h 1)]
  rfl

theorem closing_open (d : Nat) (s : Text) :
    closing d ('(' :: s) = (closing (d + 1) s).map fun r => ('(' :: r.1, r.2) := by
  rw [closing, if_neg (by simp), if_pos rfl]

theorem closing_close (d : Nat) (s : Text) :
    closing (d + 2) (')' :: s) = (closing (d + 1) s).map fun r => (')' :: r.1, r.2) := by
  rw [closing, if_neg (by omega), if_neg (by decide), if_pos rfl]
  rfl

theorem closing_other {c : Char} (h : isParen c = false) (d : Nat) (s : Text) :
    closing d (c :: s) = (closing d s).map fun r => (c :: r.1, r.2) := by
  simp only [isParen, Bool.or_eq_false_iff, decide_eq_false_iff_not] at h
  rw [closing, if_neg (fun hc => h.2 hc.1), if_neg h.1, if_neg h.2]

/-- The parenthesis that closes the outermost open one stands behind a text that closes the
others. -/
theorem closing_of_nesting {d : Nat} {s : Text} (h : nesting d s = some 0) (r : Text) :
    closing (d + 1) (s ++ ')' :: r) = some (s ++ [')'], r) := by
  induction s generalizing d with
  | nil =>
    obtain rfl : d = 0 := by simpa [nesting] using h
    rfl
  | cons c s ih =>
    rw [List.cons_append]
    obtain rfl | rfl | hc := paren_cases c
    · rw [closing_open, ih h]
      rfl
    · cases d with
      | zero => cases h
      | succ d =>
        rw [closing_close, ih h]
        rfl
    · rw [nesting_other hc] at h
      rw [closing_other hc, ih h]
      rfl

theorem nesting_of_closing {d : Nat} {s g r : Text} (h : closing (d + 1) s = some (g, r)) :
    ∃ b, g = b ++ [')'] ∧ nesting d b = some 0 := by
  induction s generalizing d g with
  | nil => cases h
  | cons c s ih =>
    obtain rfl | rfl | hc := paren_cases c
    · rw [closing_open] at h
      obtain ⟨⟨g', r'⟩, h', he⟩ := Option.map_eq_some_iff.1 h
      cases he
      obtain ⟨b, rfl, hb⟩ := ih h'
      exact ⟨'(' :: b, rfl, hb⟩
    · cases d with
      | zero =>
        cases h
        exact ⟨[], rfl, rfl⟩
      | succ d =>
        rw [closing_close] at h
        obtain ⟨⟨g', r'⟩, h', he⟩ := Option.map_eq_some_iff.1 h
        cases he
        obtain ⟨b, rfl, hb⟩ := ih h'
        exact ⟨')' :: b, rfl, hb⟩
    · rw [closing_other hc] at h
      obtain ⟨⟨g', r'⟩, h', he⟩ := Option.map_eq_some_iff.1 h
      cases he
      obtain ⟨b, rfl, hb⟩ := ih h'
      exact ⟨c :: b, rfl, by rw [nesting_other hc, hb]⟩

end Rewards.Token
