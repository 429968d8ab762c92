import Rewards.Proofs.Token.Splitting
import Rewards.Registry

/-!
Stretches of a text. Trimming a text, cutting it up and taking the parentheses of a group away leave
stretches of it.
-/

namespace Rewards

namespace Text

theorem infix_trim (s : Text) : trim s <:+: s := by
  obtain ⟨l, r, hs, -, -⟩ := exists_trim s
  exact ⟨l, r, by rw [List.append_assoc, ← hs]⟩

theorem prefix_cut (sep : Char) (s : Text) : (cut sep s).1 <+: s := by
  obtain ⟨-, h⟩ | ⟨a, b, rfl, -, h⟩ := cut_cases sep s
  · exact ⟨[], by rw [h, List.append_nil]⟩
  · exact ⟨sep :: b, by rw [h]⟩

theorem suffix_cut (sep : Char) (s : Text) : (cut sep s).2.getD [] <:+ s := by
  obtain ⟨-, h⟩ | ⟨a, b, rfl, -, h⟩ := cut_cases sep s
  · exact ⟨s, by rw [h, Option.getD_none, List.append_nil]⟩
  · exact ⟨a ++ [sep], by simp [h]⟩

theorem infix_of_mem_pieces {sep : Char} {s p : Text} (h : p ∈ pieces sep s) : p <:+: s := by
  induction hn : s.length using Nat.strong_induction_on generalizing s with
  | _ n ih =>
    obtain ⟨hs, -⟩ | ⟨a, b, rfl, ha, -⟩ := cut_cases sep s
    · rw [pieces_of_not_mem hs, List.mem_singleton] at h
      obtain rfl : p = s := h
      exact List.infix_refl p
    · rw [pieces_append ha] at h
      obtain rfl | h := List.mem_cons.1 h
      · exact (List.prefix_append _ _).isInfix
      · have := ih b.length (by simp at hn; omega) h rfl
        exact this.trans (List.IsSuffix.isInfix ⟨a ++ [sep], by simp⟩)

theorem infix_of_mem_words {s w : Text} (h : w ∈ words s) : w <:+: s := by
  induction hn : s.length using Nat.strong_induction_on generalizing s with
  | _ n ih =>
    cases s with
    | nil => cases h
    | cons c s =>
      cases hc : isBlank c with
      | true =>
        rw [words_cons_of_isBlank hc] at h
        exact (ih s.length (by simp at hn; omega) h rfl).trans (List.suffix_cons c s).isInfix
      | false =>
        have hw : ∀ d ∈ (c :: s).takeWhile (!isBlank ·), isBlank d = false := fun d hd => by
          simpa using List.mem_takeWhile_imp hd
        have hr : ∀ d ∈ ((c :: s).dropWhile (!isBlank ·)).head?, isBlank d := fun d hd => by
          have := List.head?_dropWhile_not (!isBlank ·) (c :: s)
          rw [hd] at this
          simpa using this
        have hne : (c :: s).takeWhile (!isBlank ·) ≠ [] := by simp [hc]
        have hs := List.takeWhile_append_dropWhile (p := (!isBlank ·)) (l := c :: s)
        have hlen : ((c :: s).dropWhile (!isBlank ·)).length < n := by
          have := congrArg List.length hs
          have := List.length_pos_iff.2 hne
          simp only [List.length_append] at *
          omega
        rw [← hs, words_append hw hne hr] at h
        obtain rfl | h := List.mem_cons.1 h
        · have hw := List.takeWhile_prefix (l := c :: s) (!isBlank ·)
          exact hw.isInfix
        · exact (ih _ hlen h rfl).trans (List.dropWhile_suffix _).isInfix

end Text

open Text

namespace Token

theorem infix_segment (s : Text) : segment s <:+: s :=
  (infix_trim _).trans (prefix_cut ',' s).isInfix

theorem suffix_afterComma (s : Text) : afterComma s <:+ s :=
  (List.dropWhile_suffix _).trans (suffix_cut ',' s)

theorem infix_of_mem_split {whole rest : Text} {ts : List Text} (h : split whole rest = .ok ts) :
    ∀ t ∈ ts, t <:+: rest := by
  rw [split_eq_ok_iff] at h
  induction h with
  | nil => exact fun t ht => absurd ht List.not_mem_nil
  | @group s body after us hc _ _ ih =>
    have hs : '(' :: s = '(' :: body ++ after := by rw [List.cons_append, closing_append hc]
    rw [hs]
    refine List.forall_mem_cons.2 ⟨(List.prefix_append _ _).isInfix, fun t ht => ?_⟩
    exact (ih t ht).trans ((suffix_afterComma after).trans (List.suffix_append _ _)).isInfix
  | @skip c s us _ _ _ ih =>
    intro t ht
    exact (ih t ht).trans (suffix_afterComma (c :: s)).isInfix
  | @segment c s us _ _ _ ih =>
    refine List.forall_mem_cons.2 ⟨infix_segment (c :: s), fun t ht => ?_⟩
    exact (ih t ht).trans (suffix_afterComma (c :: s)).isInfix

theorem infix_of_mem_tokens {text : Text} {ts : List Text} (h : tokens text = .ok ts) :
    ∀ t ∈ ts, t <:+: text := fun t ht => (infix_of_mem_split h t ht).trans (infix_trim text)

end Token

theorem Opening.suffix_of_body? {o : Opening} {t b : Text} (h : o.body? t = some b) : b <:+ t := by
  obtain h | ⟨-, h⟩ := Option.or_eq_some_iff.1 h
  · cases t with
    | nil => cases h
    | cons c s =>
      simp only [afterSymbol?, Option.ite_none_right_eq_some, Option.some.injEq] at h
      rw [← h.2]
      exact List.suffix_cons c s
  · have hs := suffix_cut ':' t
    unfold afterKeyword? at h
    split at h
    · rename_i k r hc
      simp only [Option.ite_none_right_eq_some, Option.some.injEq] at h
      rwa [hc, Option.getD_some, h.2] at hs
    · cases h

theorem infix_ungrouped (s : Text) : ungrouped s <:+: s := by
  have hopen : ∀ s : Text, ungrouped.dropOpen s <:+: s := by
    intro s
    fun_cases ungrouped.dropOpen s with
    | case1 s => exact (infix_trim s).trans (List.suffix_cons _ s).isInfix
    | case2 => exact List.infix_refl s
  have hclose : ∀ s : Text, ungrouped.dropClose s <:+: s := by
    intro s
    rw [ungrouped.dropClose]
    split
    · have hs := List.dropLast_prefix s
      exact (infix_trim _).trans hs.isInfix
    · exact List.infix_refl s
  exact (hclose _).trans ((hopen _).trans (infix_trim s))

end Rewards
