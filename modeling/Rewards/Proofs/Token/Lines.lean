import Mathlib.Data.List.Induction
import Rewards.Proofs.Token.Late

/-!
Texts behind commas. A text in front of which stand no blanks but spaces is split behind a comma as on its
own, and so are any number of such texts in a row.
-/

namespace Rewards.Token

open Text

/-- No blank but spaces stands before the text. -/
def Flush (s : Text) : Prop := ∀ c ∈ (s.dropWhile (· = ' ')).head?, isBlank c = false

instance (s : Text) : Decidable (Flush s) := inferInstanceAs (Decidable (∀ c ∈ _, _))

theorem Flush.space {s : Text} (h : Flush s) : Flush (' ' :: s) := by
  rwa [Flush, List.dropWhile_cons_of_pos (by decide)]

theorem flush_of_trimmed {w t r : Text} (hw : ∀ c ∈ w, c = ' ') (ht : Trimmed t)
    (hr : ∀ c ∈ r, c = ' ') : Flush (w ++ (t ++ r)) := by
  intro c hc
  rw [List.dropWhile_append_of_pos (by simpa using hw)] at hc
  cases t with
  | nil =>
    have hnil : r.dropWhile (· = ' ') = [] := List.dropWhile_eq_nil_iff.2 (by simpa using hr)
    rw [List.nil_append, hnil] at hc
    cases hc
  | cons d t =>
    have hd : isBlank d = false := ht.1 d rfl
    have hspace : d ≠ ' ' := by
      rintro rfl
      exact absurd hd (by decide)
    rw [List.cons_append, List.dropWhile_cons_of_neg (by simpa using hspace)] at hc
    cases hc
    exact hd

theorem Flush.exists_trim {s : Text} (h : Flush s) :
    ∃ w r, s = w ++ (trim s ++ r) ∧ (∀ c ∈ w, c = ' ') ∧ ∀ c ∈ r, isBlank c := by
  have hw : ∀ c ∈ s.takeWhile (· = ' '), c = ' ' := fun c hc => by
    simpa using List.mem_takeWhile_imp hc
  have hdrop : s.dropWhile isBlank = s.dropWhile (· = ' ') := by
    conv_lhs => rw [← List.takeWhile_append_dropWhile (p := (· = ' ')) (l := s)]
    rw [List.dropWhile_append_of_pos (isBlank_of_spaces hw), dropWhile_eq_self h]
  obtain ⟨r, hr, hb⟩ := exists_dropTail isBlank (s.dropWhile isBlank)
  refine ⟨s.takeWhile (· = ' '), r, ?_, hw, hb⟩
  rw [trim, ← hr, hdrop, List.takeWhile_append_dropWhile]

theorem dropSpaces_append {w t : Text} (hw : ∀ c ∈ w, c = ' ') (ht : Trimmed t) :
    (w ++ t).dropWhile (· = ' ') = t := by
  rw [List.dropWhile_append_of_pos (by simpa using hw)]
  apply dropWhile_eq_self
  intro c hc
  rw [decide_eq_false_iff_not]
  rintro rfl
  exact absurd (ht.1 ' ' hc) (by decide)

/-- Blanks behind a text make no difference. -/
theorem tokens_append_blank {r : Text} (hr : ∀ c ∈ r, isBlank c) (a : Text) :
    tokens (a ++ r) = tokens a := by
  rw [tokens, tokens, trim_append_blank hr]

/-- What stands behind a comma adds its tokens. -/
theorem tokens_append_flush {a b : Text} {ts us : List Text} (ha : tokens a = .ok ts)
    (hb : tokens b = .ok us) (h : Flush b) : tokens (a ++ ',' :: b) = .ok (ts ++ us) := by
  obtain ⟨w, r, hsplit, hw, hr⟩ := h.exists_trim
  have htrim : tokens (a ++ ',' :: b) = tokens (a ++ ',' :: (w ++ trim b)) := by
    rw [← tokens_append_blank hr (a ++ ',' :: (w ++ trim b))]
    conv_lhs => rw [hsplit]
    simp
  rw [htrim]
  by_cases hnil : trim b = []
  · -- Only the comma is left when the spaces behind it are trimmed.
    rw [tokens, hnil, split] at hb
    cases hb
    have hcomma := tokens_append ha (b := []) (by decide)
    rw [List.dropWhile_nil, split] at hcomma
    rw [hnil, List.append_nil, ← List.singleton_append, ← List.append_assoc,
      tokens_append_blank (isBlank_of_spaces hw), hcomma]
    rfl
  · have htrimmed := trimmed_trim b
    have hlast : ∀ c ∈ (',' :: (w ++ trim b)).getLast?, isBlank c = false := by
      rw [← List.cons_append, List.getLast?_append_of_ne_nil _ hnil]
      exact htrimmed.2
    rw [tokens_append ha hlast, dropSpaces_append hw htrimmed,
      split_eq_ok_iff.2 (split_eq_ok_iff.1 hb)]
    rfl

/-- Texts in a row are split one after another. -/
theorem tokens_joined_lines {ts : Text → List Text} {ls : List Text}
    (h : ∀ l ∈ ls, Flush l ∧ tokens l = .ok (ts l)) :
    tokens (joined ", ".toList ls) = .ok (ls.flatMap ts) := by
  induction ls using List.reverseRecOn with
  | nil => exact tokens_nil
  | append_singleton ls l ih =>
    obtain ⟨hinit, hlast⟩ := List.forall_mem_append.1 h
    obtain ⟨hflush, hts⟩ := List.forall_mem_singleton.1 hlast
    rw [List.flatMap_append, List.flatMap_singleton]
    obtain rfl | hne := eq_or_ne ls []
    · exact hts
    · have hspace : tokens (' ' :: l) = .ok (ts l) := by
        rw [← hts, tokens, tokens, ← List.singleton_append, trim_blank_append (by decide)]
      rw [joined_concat hne, List.append_assoc]
      exact tokens_append_flush (ih hinit) hspace hflush.space

end Rewards.Token
