import Rewards.Proofs.Accepted

/-!
What a reading depends on. The registries come in only where a token outside parentheses is read, so
two pairs of registries that read those tokens alike read the whole text alike, up to the failure.
-/

namespace Rewards

open Text

/-- How a token outside parentheses is read: by the first entry that claims it, or else as an
item. -/
def readOutside (shared r : Registry) (t : Text) : Except Failure Grantable :=
  match r.find? t with
  | some e => e.reader.run shared (e.opening.strip t)
  | none => ((Item.ofToken t).map (.leaf ∘ .item)).mapError (unknownItem t)

theorem readOutside_claimed (shared : Registry) {r : Registry} {t : Text} {e : Entry}
    (h : r.find? t = some e) : readOutside shared r t = e.reader.run shared (e.opening.strip t) := by
  rw [readOutside, h]

theorem readOutside_unclaimed (shared : Registry) {r : Registry} {t : Text}
    (h : r.find? t = none) :
    readOutside shared r t =
      ((Item.ofToken t).map (.leaf ∘ .item)).mapError (unknownItem t) := by
  rw [readOutside, h]

theorem dispatch_outside {shared r : Registry} {token : Text} (hne : trim token ≠ [])
    (hp : (trim token).head? ≠ some '(') :
    dispatch shared r token = readOutside shared r (trim token) := by
  cases hf : r.find? (trim token) with
  | some e => rw [dispatch_claimed hne hp hf, readOutside_claimed shared hf]
  | none => rw [dispatch_unclaimed hne hp hf, readOutside_unclaimed shared hf]

theorem leafTokens_of_error {text : Text} {f : GroupFlaw} (h : tokens text = .error f) :
    leafTokens text = [] := by
  rw [leafTokens]
  split
  · rfl
  · rename_i ts h'
    rw [h] at h'
    cases h'

/-- One token, given what stands inside its parentheses if it has them. -/
theorem outside_of_mem_leaves {token t : Text} (h : t ∈ leavesOfToken token)
    (ih : (trim token).head? = some '(' → t ∈ leafTokens (ungrouped (trim token)) →
      trim t = t ∧ t.head? ≠ some '(') : trim t = t ∧ t.head? ≠ some '(' := by
  unfold leavesOfToken at h
  by_cases hp : (trim token).head? = some '('
  · rw [if_pos hp] at h
    exact ih hp h
  · rw [if_neg hp] at h
    obtain rfl := List.mem_singleton.1 h
    exact ⟨trim_trim token, hp⟩

/-- What stands outside parentheses is trimmed and does not open a group. -/
theorem outside_of_mem_leafTokens {text t : Text} (h : t ∈ leafTokens text) :
    trim t = t ∧ t.head? ≠ some '(' := by
  -- On the length of the text, since what stands inside parentheses is a shorter text.
  induction hn : text.length using Nat.strong_induction_on generalizing text with
  | _ n ih =>
    cases hts : tokens text with
    | error f =>
      rw [leafTokens_of_error hts] at h
      exact absurd h List.not_mem_nil
    | ok ts =>
      rw [leafTokens_of_tokens hts] at h
      obtain ⟨token, ht, h⟩ := List.mem_flatMap.1 h
      have hlen := tokens_length hts token ht
      apply outside_of_mem_leaves h
      intro hp hinner
      have hlt := length_ungrouped_lt hp
      exact ih _ (by omega) hinner rfl

theorem outside_of_mem_leavesOfToken {token t : Text} (h : t ∈ leavesOfToken token) :
    trim t = t ∧ t.head? ≠ some '(' :=
  outside_of_mem_leaves h fun _ => outside_of_mem_leafTokens

section Alike

variable {shared shared' r r' : Registry}

/-- One token, given that shorter texts are read alike. -/
theorem dispatch_congr_of {token : Text}
    (h : ∀ t ∈ leavesOfToken token, readOutside shared' r' t = readOutside shared r t)
    (ih : ∀ text : Text, text.length < token.length →
      (∀ t ∈ leafTokens text, readOutside shared' r' t = readOutside shared r t) →
      dispatchAll shared' r' text = dispatchAll shared r text) :
    dispatch shared' r' token = dispatch shared r token := by
  unfold leavesOfToken at h
  by_cases hne : trim token = []
  · rw [dispatch_blank hne, dispatch_blank hne]
  · by_cases hp : (trim token).head? = some '('
    · rw [if_pos hp] at h
      rw [dispatch_group hp, dispatch_group hp, ih _ (length_ungrouped_lt hp) h]
    · rw [if_neg hp] at h
      rw [dispatch_outside hne hp, dispatch_outside hne hp]
      exact h _ (List.mem_singleton_self _)

/-- Texts whose tokens outside parentheses are read alike are read alike. -/
theorem dispatchAll_congr {text : Text}
    (h : ∀ t ∈ leafTokens text, readOutside shared' r' t = readOutside shared r t) :
    dispatchAll shared' r' text = dispatchAll shared r text := by
  -- On the length of the text, since what stands inside parentheses is a shorter text.
  induction hn : text.length using Nat.strong_induction_on generalizing text with
  | _ n ih =>
    rw [dispatchAll_eq, dispatchAll_eq]
    cases hts : tokens text with
    | error f => rfl
    | ok ts =>
      apply Outcome.each_congr
      intro token ht
      have hlen := tokens_length hts token ht
      rw [leafTokens_of_tokens hts] at h
      apply dispatch_congr_of
      · intro t hm
        exact h t (List.mem_flatMap.2 ⟨token, ht, hm⟩)
      · intro inner hi hm
        exact ih inner.length (by omega) hm rfl

theorem dispatch_congr {token : Text}
    (h : ∀ t ∈ leavesOfToken token, readOutside shared' r' t = readOutside shared r t) :
    dispatch shared' r' token = dispatch shared r token :=
  dispatch_congr_of h fun _ _ => dispatchAll_congr

end Alike

end Rewards
