import Mathlib.Data.List.DropRight
import Rewards.Proofs.Outcome
import Rewards.Proofs.Token.Splitting
import Rewards.Registry

/-!
Dispatch by equations. A descriptor is dispatched token by token, a token in parentheses as the
descriptor inside them, and without kinds of clients any other token as one leaf.
-/

namespace Rewards

open Text

theorem dispatchAll_eq (shared r : Registry) (text : Text) :
    dispatchAll shared r text = match tokens text with
      | .error f => .error (.refused (.group f))
      | .ok ts => Outcome.each (dispatch shared r) ts := by
  rw [dispatchAll]
  split
  · rename_i h
    rw [h]
  · rename_i ts h
    refine (Outcome.each_attach (dispatch shared r) ts).trans ?_
    rw [h]

theorem dispatchAll_of_tokens {shared r : Registry} {text : Text} {ts : List Text}
    (h : tokens text = .ok ts) :
    dispatchAll shared r text = Outcome.each (dispatch shared r) ts := by
  rw [dispatchAll_eq, h]

/-- The single thing that a token outside parentheses stands for when no kind of a client claims
it. -/
def Leaf.ofToken (t : Text) : Except Failure Leaf :=
  match Currency.opening.body? t with
  | some b => (Currency.ofBody b).map .currency
  | none => match Permission.opening.body? t with
    | some b => (Permission.ofBody b).map .permission
    | none => match Effect.opening.body? t with
      | some b => (Effect.ofBody b).map .effect
      | none => (Item.ofToken t).map .item |>.mapError (unknownItem t)

theorem dispatch_blank {shared r : Registry} {token : Text} (h : trim token = []) :
    dispatch shared r token = .error (.refused (.lack (.token (some token)))) := by
  rw [dispatch, if_pos (by rw [h]; rfl)]

theorem dispatch_group {shared r : Registry} {token : Text} (h : (trim token).head? = some '(') :
    dispatch shared r token =
      (dispatchAll shared r (ungrouped (trim token))).map .group := by
  rw [dispatch, if_neg, dif_pos]
  · rwa [trim_trim]
  · rintro hb
    rw [List.isEmpty_iff.1 hb] at h
    cases h

theorem length_ungrouped_lt {t : Text} (h : (trim t).head? = some '(') :
    (ungrouped (trim t)).length < t.length := by
  have h1 := ungrouped_length_lt (s := trim t) (by rwa [trim_trim])
  have h2 := trim_length_le t
  omega

theorem dispatchAll_trim (shared r : Registry) (text : Text) :
    dispatchAll shared r (trim text) = dispatchAll shared r text := by
  rw [dispatchAll_eq, dispatchAll_eq, tokens, tokens, trim_trim]

theorem trim_append_close (b : Text) : trim (b ++ [')']) = b.dropWhile isBlank ++ [')'] := by
  have hl : b ++ [')'] = b.takeWhile isBlank ++ ((b.dropWhile isBlank ++ [')']) ++ []) := by
    rw [List.append_nil, ← List.append_assoc, List.takeWhile_append_dropWhile]
  have ht : Trimmed (b.dropWhile isBlank ++ [')']) := by
    refine ⟨fun c hc => ?_, by simp; decide⟩
    have := List.head?_dropWhile_not isBlank b
    cases hd : b.dropWhile isBlank with
    | nil =>
      rw [hd] at hc
      obtain rfl : ')' = c := Option.some.inj hc
      decide
    | cons d s =>
      rw [hd] at hc this
      obtain rfl : d = c := Option.some.inj hc
      simpa using this
  conv_lhs => rw [hl]
  exact trim_append (fun c hc => List.mem_takeWhile_imp hc) ht (by simp)

theorem trim_dropWhile (b : Text) : trim (b.dropWhile isBlank) = trim b := by
  rw [trim, trim, List.dropWhile_idempotent]

/-- The parentheses of a group token are taken away together. -/
theorem ungrouped_parenthesized (b : Text) : ungrouped ('(' :: (b ++ [')'])) = trim b := by
  have ht := trim_of_trimmed (Token.trimmed_parenthesized b)
  rw [ungrouped, ht]
  simp only [ungrouped.dropOpen, ungrouped.dropClose]
  rw [trim_append_close, List.getLast?_concat, if_pos rfl, List.dropLast_concat, trim_dropWhile]

theorem dispatch_parenthesized (shared r : Registry) (b : Text) :
    dispatch shared r ('(' :: (b ++ [')'])) = (dispatchAll shared r b).map .group := by
  have ht := trim_of_trimmed (Token.trimmed_parenthesized b)
  rw [dispatch_group (by rw [ht]; rfl), ht, ungrouped_parenthesized, dispatchAll_trim]

section Ungrouped

variable {shared r : Registry} {token : Text} (hne : trim token ≠ [])
  (hp : (trim token).head? ≠ some '(')

include hne hp

theorem dispatch_claimed {e : Entry} (h : r.find? (trim token) = some e) :
    dispatch shared r token = e.reader.run shared (e.opening.strip (trim token)) := by
  rw [dispatch, if_neg (by rwa [List.isEmpty_iff]), dif_neg (by rwa [trim_trim])]
  split
  · rename_i e' h'
    obtain rfl : e = e' := Option.some.inj (h.symm.trans h')
    split
    · rename_i read hr
      rw [hr]
      rfl
    · rename_i hr
      rw [hr]
      rfl
  · rename_i h'
    rw [h'] at h
    cases h

theorem dispatch_unclaimed (h : r.find? (trim token) = none) :
    dispatch shared r token = ((Item.ofToken (trim token)).map (.leaf ∘ .item)).mapError
      (unknownItem (trim token)) := by
  rw [dispatch, if_neg (by rwa [List.isEmpty_iff]), dif_neg (by rwa [trim_trim])]
  split
  · rename_i e h'
    rw [h'] at h
    cases h
  · rfl

theorem dispatch_leaf :
    dispatch shared .empty token = (Leaf.ofToken (trim token)).map .leaf := by
  have hs : ∀ (o : Opening) b, o.body? (trim token) = some b → o.strip (trim token) = b := by
    intro o b h
    rw [Opening.strip, h, Option.getD_some]
  have hsingle : ∀ {α : Type} (wrap : α → Leaf) (f : Text → Except Failure α) (b : Text),
      (Kind.single wrap f).run shared b = ((f b).map wrap).map .leaf := by
    intro α wrap f b
    simp only [Kind.single, BodyReader.run]
    cases f b <;> rfl
  have hf : Registry.empty.find? (trim token) =
      Registry.core.find? (·.opening.claims (trim token)) := rfl
  simp only [Registry.core, List.find?_cons, List.find?_nil, Opening.claims] at hf
  rw [Leaf.ofToken]
  cases hc : Currency.opening.body? (trim token) with
  | some b =>
    rw [hc] at hf
    rw [dispatch_claimed hne hp hf, hs _ _ hc]
    exact hsingle _ _ b
  | none =>
    cases hm : Permission.opening.body? (trim token) with
    | some b =>
      rw [hc, hm] at hf
      rw [dispatch_claimed hne hp hf, hs _ _ hm]
      exact hsingle _ _ b
    | none =>
      cases he : Effect.opening.body? (trim token) with
      | some b =>
        rw [hc, hm, he] at hf
        rw [dispatch_claimed hne hp hf, hs _ _ he]
        exact hsingle _ _ b
      | none =>
        rw [hc, hm, he] at hf
        rw [dispatch_unclaimed hne hp hf]
        cases Item.ofToken (trim token) <;> rfl

end Ungrouped

end Rewards
