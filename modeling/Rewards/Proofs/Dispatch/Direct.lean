import Rewards.Proofs.Parentheses

/-!
Groups that are read directly. Parentheses around the text change nothing if it does not end with a
closing one. If it does, that parenthesis is taken away although no opening one has been, and the group
is read from a shorter text.
-/

namespace Rewards

open Text Token

theorem ungrouped_of_head {t : Text} (hp : (trim t).head? ≠ some '(') :
    ungrouped t = ungrouped.dropClose (trim t) := by
  rw [ungrouped, ungrouped.dropOpen.eq_2]
  intro s hs
  exact hp (by rw [hs, List.head?_cons])

section Direct

variable {shared r : Registry} {t : Text} (hp : (trim t).head? ≠ some '(')

theorem readGroup_parenthesized (shared r : Registry) (t : Text) :
    readGroup shared r ('(' :: (t ++ [')'])) = (dispatchAll shared r t).map .group := by
  rw [readGroup, ungrouped_parenthesized, dispatchAll_trim]

include hp

theorem readGroup_of_open (hc : (trim t).getLast? ≠ some ')') :
    readGroup shared r t = (dispatchAll shared r t).map .group := by
  rw [readGroup, ungrouped_of_head hp, ungrouped.dropClose, if_neg hc, dispatchAll_trim]

theorem readGroup_of_close (hc : (trim t).getLast? = some ')') :
    readGroup shared r t = (dispatchAll shared r (trim t).dropLast).map .group := by
  rw [readGroup, ungrouped_of_head hp, ungrouped.dropClose, if_pos hc, dispatchAll_trim]

/-- The group that is read without the last parenthesis has one parenthesis less. -/
theorem not_same_of_close {gs : List Grantable} (h : dispatchAll shared .empty t = .ok gs)
    (hs : Spaced t) (hc : (trim t).getLast? = some ')') {g : Grantable}
    (hg : readGroup shared .empty t = .ok g) : Grantable.same g (.group gs) = false := by
  rw [readGroup_of_close hp hc] at hg
  obtain ⟨gs', hgs', rfl⟩ := Outcome.map_eq_ok_iff.1 hg
  obtain ⟨s, hts⟩ := List.getLast?_eq_some_iff.1 hc
  rw [hts, List.dropLast_concat] at hgs'
  have hss : Spaced s := hs.trim.part ⟨[], [')'], by simp [hts]⟩
  have hparens := Grantable.parensAll_of_dispatchAll h hs
  have hparens' := Grantable.parensAll_of_dispatchAll hgs' hss
  rw [← parens_trim, hts, parens_append, ← hparens'] at hparens
  rw [Bool.eq_false_iff]
  intro hsame
  have he := Grantable.parens_eq_of_same _ _ hsame
  rw [Grantable.parens, Grantable.parens, hparens] at he
  have hlen := congrArg List.length he
  simp [parens, isParen] at hlen

/-- A descriptor that neither starts with an opening parenthesis nor ends with a closing one is read as
a group of the same elements with parentheses around it and without them. One that ends with a closing
parenthesis is read without it; what comes of that is never the same group, if there are no kinds of
clients and only spaces stand between commas and groups. -/
theorem parentheses_optional {gs : List Grantable} (h : dispatchAll shared r t = .ok gs) :
    readGroup shared r ('(' :: (t ++ [')'])) = .ok (.group gs) ∧
    ((trim t).getLast? ≠ some ')' → readGroup shared r t = .ok (.group gs)) ∧
    ((trim t).getLast? = some ')' →
      readGroup shared r t = (dispatchAll shared r (trim t).dropLast).map .group ∧
      (r = .empty → Spaced t → ∀ g, readGroup shared r t = .ok g →
        Grantable.same g (.group gs) = false)) := by
  refine ⟨by rw [readGroup_parenthesized, h]; rfl, fun hc => ?_, fun hc => ?_⟩
  · rw [readGroup_of_open hp hc, h]
    rfl
  · refine ⟨readGroup_of_close hp hc, ?_⟩
    rintro rfl hs g hg
    exact not_same_of_close hp h hs hc hg

end Direct

/-- A node, and a group of another one. -/
def nodeAndGroup : List Grantable :=
  [.leaf (.permission "b"), .group [.leaf (.permission "a")]]

theorem dispatchAll_nodeAndGroup {t : Text}
    (ht : tokens t = .ok ["perm:b".toList, '(' :: ("perm:a".toList ++ [')'])]) :
    dispatchAll .empty .empty t = .ok nodeAndGroup := by
  have hin : dispatchAll .empty .empty "perm:a" = .ok [.leaf (.permission "a")] := by
    have hts : tokens "perm:a" = .ok ["perm:a".toList] := by decide +kernel
    rw [dispatchAll_of_tokens hts, Outcome.each, dispatch_leaf (by decide) (by decide)]
    rfl
  rw [dispatchAll_of_tokens ht, Outcome.each, dispatch_leaf (by decide) (by decide), Outcome.each,
    dispatch_parenthesized, hin]
  rfl

/-- A comma behind the last group keeps its parenthesis from standing at the end. -/
theorem parentheses_optional_before_comma :
    let t : Text := "perm:b, (perm:a),"
    (trim t).head? ≠ some '(' ∧ dispatchAll .empty .empty t = .ok nodeAndGroup ∧
      (trim t).getLast? ≠ some ')' ∧
      readGroup .empty .empty ('(' :: (t ++ [')'])) = .ok (.group nodeAndGroup) ∧
      readGroup .empty .empty t = .ok (.group nodeAndGroup) := by
  intro t
  have hp : (trim t).head? ≠ some '(' := by decide
  have hc : (trim t).getLast? ≠ some ')' := by decide
  have h : dispatchAll .empty .empty t = .ok nodeAndGroup :=
    dispatchAll_nodeAndGroup (by decide +kernel)
  obtain ⟨hwrapped, hbare, -⟩ := parentheses_optional hp h
  exact ⟨hp, h, hc, hwrapped, hbare hc⟩

/-- Without the comma the last group loses its parenthesis, although the text is balanced. -/
theorem last_group_unclosed :
    let t : Text := "perm:b, (perm:a)"
    (trim t).head? ≠ some '(' ∧ Balanced t ∧ dispatchAll .empty .empty t = .ok nodeAndGroup ∧
      readGroup .empty .empty ('(' :: (t ++ [')'])) = .ok (.group nodeAndGroup) ∧
      readGroup .empty .empty t = .error (.refused (.group (.unclosed "(perm:a"))) := by
  intro t
  have hp : (trim t).head? ≠ some '(' := by decide
  have h : dispatchAll .empty .empty t = .ok nodeAndGroup :=
    dispatchAll_nodeAndGroup (by decide +kernel)
  have hshort : tokens (trim t).dropLast = .error (.unclosed "(perm:a") := by decide +kernel
  refine ⟨hp, by decide, h, ?_, ?_⟩
  · rw [readGroup_parenthesized, h]
    rfl
  · rw [readGroup_of_close hp (by decide), dispatchAll_eq, hshort]
    rfl

end Rewards
