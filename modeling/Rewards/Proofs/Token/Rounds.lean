import Rewards.Proofs.Token.Splitting

/-!
The splitter round by round. Every round takes at most one token and leaves less of the text, so that
the scan of a text is over after no more rounds than it has characters.
-/

namespace Rewards.Token

open Text

/-- What a round takes as a token, if anything, and what it leaves. -/
def round (whole : Text) (c : Char) (s : Text) : Except GroupFlaw (Option Text × Text) :=
  if c = ')' then .error (.strayClose (whole.length - (s.length + 1)) whole)
  else if c = '(' then
    match closing 1 s with
    | none => .error (.unclosed (c :: s))
    | some (body, after) =>
      if segment after ≠ [] then .error (.trailing (segment after) (c :: body))
      else .ok (some (c :: body), afterComma after)
  else if segment (c :: s) = [] then .ok (none, afterComma (c :: s))
  else .ok (some (segment (c :: s)), afterComma (c :: s))

/-- A scan of `rest`, a part of `whole`: how many rounds it makes, and how it ends. -/
inductive Scan (whole : Text) : Nat → Text → Except GroupFlaw (List Text) → Prop
  | done : Scan whole 0 [] (.ok [])
  | flaw {c : Char} {s : Text} {f : GroupFlaw} (h : round whole c s = .error f) :
      Scan whole 1 (c :: s) (.error f)
  | next {c : Char} {s left : Text} {t : Option Text} {n : Nat}
      {r : Except GroupFlaw (List Text)} (h : round whole c s = .ok (t, left))
      (hr : Scan whole n left r) : Scan whole (n + 1) (c :: s) (r.map (t.toList ++ ·))

variable {whole rest left s : Text} {c : Char} {t : Option Text}

theorem round_length (h : round whole c s = .ok (t, left)) : left.length < (c :: s).length := by
  unfold round at h
  split_ifs at h
  · split at h
    · cases h
    · rename_i body after hc
      split_ifs at h
      cases h
      have hl := closing_length hc
      have ha := afterComma_length_le after
      rw [List.length_cons]
      omega
  · cases h
    exact afterComma_length (List.cons_ne_nil c s)
  · cases h
    exact afterComma_length (List.cons_ne_nil c s)

theorem split_of_round_error {f : GroupFlaw} (h : round whole c s = .error f) :
    split whole (c :: s) = .error f := by
  unfold round at h
  rw [split]
  split_ifs at h with hc ho hs
  · cases h
    rw [if_pos hc]
  · rw [if_neg hc, if_pos ho]
    split at h
    · rename_i hnone
      cases h
      split
      · rfl
      · rename_i hsome
        cases hnone.symm.trans hsome
    · rename_i body after hsome
      split_ifs at h with hs
      cases h
      split
      · rename_i hnone
        cases hnone.symm.trans hsome
      · rename_i hb
        cases hsome.symm.trans hb
        rw [if_pos hs]

theorem split_of_round (h : round whole c s = .ok (t, left)) :
    split whole (c :: s) = (split whole left).map (t.toList ++ ·) := by
  unfold round at h
  split_ifs at h with hc ho hs
  · split at h
    · cases h
    · rename_i body after hb
      split_ifs at h with hs
      cases h
      rw [ho, split_group hb (not_not.1 hs)]
      rfl
  · cases h
    rw [split, if_neg hc, if_neg ho, if_pos hs]
    cases split whole (afterComma (c :: s)) <;> rfl
  · cases h
    rw [split, if_neg hc, if_neg ho, if_neg hs]
    rfl

/-- The scan of a text comes to an end, after at most as many rounds as there are characters. -/
theorem exists_scan (whole rest : Text) : ∃ n ≤ rest.length, Scan whole n rest (split whole rest) := by
  induction hn : rest.length using Nat.strong_induction_on generalizing rest with
  | _ m ih =>
    cases rest with
    | nil =>
      rw [split]
      exact ⟨0, Nat.zero_le m, .done⟩
    | cons c s =>
      cases h : round whole c s with
      | error f =>
        rw [split_of_round_error h]
        exact ⟨1, by rw [← hn, List.length_cons]; omega, .flaw h⟩
      | ok p =>
        have hl := round_length h
        obtain ⟨n, hle, hs⟩ := ih p.2.length (hn ▸ hl) p.2 rfl
        rw [split_of_round h]
        exact ⟨n + 1, by omega, .next h hs⟩

/-- There is only one scan of a text. -/
theorem Scan.unique {n m : Nat} {r r' : Except GroupFlaw (List Text)} (h : Scan whole n rest r)
    (h' : Scan whole m rest r') : n = m ∧ r = r' := by
  induction h generalizing m r' with
  | done =>
    cases h'
    exact ⟨rfl, rfl⟩
  | flaw h =>
    cases h' with
    | flaw h' =>
      rw [h] at h'
      cases h'
      exact ⟨rfl, rfl⟩
    | next h' _ =>
      rw [h] at h'
      cases h'
  | next h _ ih =>
    cases h' with
    | flaw h' =>
      rw [h] at h'
      cases h'
    | next h' hr' =>
      rw [h] at h'
      cases h'
      obtain ⟨rfl, rfl⟩ := ih hr'
      exact ⟨rfl, rfl⟩

end Rewards.Token
