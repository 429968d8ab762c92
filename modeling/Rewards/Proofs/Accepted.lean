import Mathlib.Data.List.Forall2
import Rewards.Proofs.Canonical

/-!
What is accepted. The single things of an accepted text stand for its tokens outside parentheses,
in order, and each is well-formed. An effect lasts for ever exactly if no length is written, since
no whole number of seconds comes to the count of ticks that means "for ever".
-/

namespace Rewards

open Text Catalog

namespace Effect

/-- The part that says how long the effect lasts, of those after the name. -/
def lengthPart? : List Text → Option Text
  | [] => none
  | [a] => if looksLikeAmplifier a then none else some a
  | _ :: l :: _ => some l

/-- What the length of an effect says about the body that it is written in. -/
structure Written (e : Effect) (b : Text) : Prop where
  endless_iff : e.duration.ticks = Duration.endlessTicks ↔ lengthPart? (words (trim b)).tail = none
  endless : lengthPart? (words (trim b)).tail = none → e.amplifier ≤ 98
  timed : ∀ l, lengthPart? (words (trim b)).tail = some l →
    ∃ n > 0, e.duration.ticks = n * Duration.ticksPerSecond

theorem duration_of_ofParts {kind : Key} {rest : List Text} {e : Effect}
    (h : ofParts kind rest = .ok e) :
    lengthPart? rest = none ∧ e.duration = .endless ∨
      ∃ l, lengthPart? rest = some l ∧ Duration.read (some l) = .ok e.duration := by
  rcases rest with _ | ⟨a, _ | ⟨l, rest⟩⟩
  · cases h
    exact .inl ⟨rfl, rfl⟩
  · rw [ofParts] at h
    rw [lengthPart?]
    split at h
    · rename_i ha
      obtain ⟨n, -, rfl⟩ := Outcome.map_eq_ok_iff.1 h
      exact .inl ⟨if_pos ha, rfl⟩
    · rename_i ha
      obtain ⟨d, hd, rfl⟩ := Outcome.map_eq_ok_iff.1 h
      exact .inr ⟨a, if_neg ha, hd⟩
  · obtain ⟨n, -, h⟩ := Outcome.bind_eq_ok_iff.1 h
    obtain ⟨d, hd, rfl⟩ := Outcome.map_eq_ok_iff.1 h
    exact .inr ⟨l, rfl, hd⟩

theorem written_of_ofBody {b : Text} {e : Effect} (h : ofBody b = .ok e) : e.Written b := by
  have hw := wellFormed_of_ofBody h
  obtain ⟨name, rest, hb, -, -, h⟩ := ofParts_of_ofBody h
  have hrest : (words (trim b)).tail = rest := by rw [hb, List.tail_cons]
  obtain ⟨hl, hd⟩ | ⟨l, hl, hd⟩ := duration_of_ofParts h
  · rw [← hrest] at hl
    refine ⟨iff_of_true ?_ hl, fun _ => hw.endless hd, fun l hl' => ?_⟩
    · rw [hd, Duration.ticks]
    · rw [hl] at hl'
      cases hl'
  · obtain ⟨⟨n, hn, he⟩, -⟩ := Duration.read_cases hd
    -- A written length is a number of seconds, and those never come to the endless count.
    have hne := Duration.ticks_seconds_ne_endless n hn
    have hsome : lengthPart? (words (trim b)).tail ≠ none := by
      rw [hrest, hl]
      exact Option.some_ne_none l
    rw [← he] at hne
    refine ⟨iff_of_false hne hsome, fun hn => absurd hn hsome, fun _ _ => ⟨n, hn, ?_⟩⟩
    rw [he, Duration.ticks]

end Effect

namespace Leaf

theorem body?_of_effect {t : Text} {e : Effect} (h : ofToken t = .ok (effect e)) :
    ∃ b, Effect.opening.body? t = some b ∧ Effect.ofBody b = .ok e := by
  rw [ofToken] at h
  split at h
  · obtain ⟨x, -, hx⟩ := Outcome.map_eq_ok_iff.1 h
    cases hx
  · split at h
    · obtain ⟨x, -, hx⟩ := Outcome.map_eq_ok_iff.1 h
      cases hx
    · split at h
      · rename_i b hb
        obtain ⟨e', he, hx⟩ := Outcome.map_eq_ok_iff.1 h
        cases hx
        exact ⟨b, hb, he⟩
      · rw [Outcome.mapError_eq_ok_iff] at h
        obtain ⟨x, -, hx⟩ := Outcome.map_eq_ok_iff.1 h
        cases hx

end Leaf

/-- The tokens of a text outside parentheses and those inside, from left to right. -/
def leafTokens (text : Text) : List Text :=
  match h : tokens text with
  | .error _ => []
  | .ok ts => ts.attach.flatMap fun t =>
    if hp : (trim t.1).head? = some '(' then
      have := tokens_length h t.1 t.2
      have := length_ungrouped_lt hp
      leafTokens (ungrouped (trim t.1))
    else [trim t.1]
termination_by text.length

/-- The leaves of one token. -/
def leavesOfToken (t : Text) : List Text :=
  if (trim t).head? = some '(' then leafTokens (ungrouped (trim t)) else [trim t]

theorem leafTokens_of_tokens {text : Text} {ts : List Text} (h : tokens text = .ok ts) :
    leafTokens text = ts.flatMap leavesOfToken := by
  rw [leafTokens]
  split
  · rename_i h'
    rw [h] at h'
    cases h'
  · rename_i us h'
    obtain rfl : us = ts := Except.ok.inj (h'.symm.trans h)
    conv_rhs => rw [← List.attach_map_subtype_val us, List.flatMap_map]
    simp only [leavesOfToken, dite_eq_ite]

namespace Grantable

theorem forall₂_flatMap_of_each {shared : Registry} {p : Text → Leaf → Prop} {ts : List Text}
    {gs : List Grantable} (h : Outcome.each (dispatch shared .empty) ts = .ok gs)
    (ht : ∀ t ∈ ts, ∀ g, dispatch shared .empty t = .ok g →
      List.Forall₂ p (leavesOfToken t) (leaves g)) :
    List.Forall₂ p (ts.flatMap leavesOfToken) (leavesAll gs) := by
  induction ts generalizing gs with
  | nil =>
    cases h
    exact .nil
  | cons t ts ih =>
    obtain ⟨g, gs', hg, hgs, rfl⟩ := Outcome.each_cons_eq_ok_iff.1 h
    obtain ⟨ht, hts⟩ := List.forall_mem_cons.1 ht
    rw [List.flatMap_cons, leavesAll]
    exact List.rel_append (ht g hg) (ih hgs hts)

/-- The single things of what is accepted stand for the tokens outside parentheses, one each. -/
theorem forall₂_leafTokens {shared : Registry} {text : Text} {gs : List Grantable}
    (h : dispatchAll shared .empty text = .ok gs) :
    List.Forall₂ (fun t l => Leaf.ofToken t = .ok l) (leafTokens text) (leavesAll gs) := by
  -- On the length of the text, since what stands inside parentheses is a shorter text.
  induction hn : text.length using Nat.strong_induction_on generalizing text gs with
  | _ n ih =>
    obtain ⟨ts, hts, heach⟩ := tokens_of_dispatchAll h
    rw [leafTokens_of_tokens hts]
    apply forall₂_flatMap_of_each heach
    intro t ht g hg
    unfold leavesOfToken
    obtain ⟨l, hl, rfl, hp⟩ | ⟨gs', hgs', rfl, hp⟩ := dispatch_cases hg
    · rw [if_neg hp, leaves]
      exact .cons hl .nil
    · have hlen := length_ungrouped_lt hp
      have htext := tokens_length hts t ht
      rw [if_pos hp, leaves]
      exact ih _ (by omega) hgs' rfl

/-- Everything that the built-in kinds accept is well-formed at every depth: of the catalog and
within its bounds, finite, or a node without commas. An effect lasts for ever exactly if its token
has no length, however long a length is written. -/
theorem accepted_wellFormed {shared : Registry} {text : Text} {gs : List Grantable}
    (h : dispatchAll shared .empty text = .ok gs) :
    List.Forall₂ (fun t l => Leaf.ofToken t = .ok l ∧ l.WellFormed ∧
      ∀ e, l = .effect e → ∃ b, Effect.opening.body? t = some b ∧ e.Written b)
      (leafTokens text) (leavesAll gs) := by
  apply (forall₂_leafTokens h).imp
  intro t l hl
  refine ⟨hl, (Leaf.ofToken_cases hl).1, ?_⟩
  rintro e rfl
  obtain ⟨b, hb, he⟩ := Leaf.body?_of_effect hl
  exact ⟨b, hb, Effect.written_of_ofBody he⟩

/-- The second token of the group stands inside a group of its own. -/
theorem accepted_in_groups :
    ∃ gs, dispatchAll .empty .empty "(perm:a.b, (@speed 30s)), dirt:3" = .ok gs ∧
      leafTokens "(perm:a.b, (@speed 30s)), dirt:3" =
        ["perm:a.b".toList, "@speed 30s".toList, "dirt:3".toList] ∧
      List.Forall₂ (fun t l => Leaf.ofToken t = .ok l ∧ l.WellFormed ∧
        ∀ e, l = .effect e → ∃ b, Effect.opening.body? t = some b ∧ e.Written b)
        ["perm:a.b".toList, "@speed 30s".toList, "dirt:3".toList] (leavesAll gs) := by
  have h1 : tokens "(perm:a.b, (@speed 30s)), dirt:3" =
      .ok ["(perm:a.b, (@speed 30s))".toList, "dirt:3".toList] := by decide +kernel
  have h2 : tokens "perm:a.b, (@speed 30s)" =
      .ok ["perm:a.b".toList, "(@speed 30s)".toList] := by decide +kernel
  have h3 : tokens "@speed 30s" = .ok ["@speed 30s".toList] := by decide +kernel
  have hg2 : ungrouped (trim "(perm:a.b, (@speed 30s))".toList) =
      "perm:a.b, (@speed 30s)".toList := by decide
  have hg3 : ungrouped (trim "(@speed 30s)".toList) = "@speed 30s".toList := by decide
  have hleaves : leafTokens "(perm:a.b, (@speed 30s)), dirt:3" =
      ["perm:a.b".toList, "@speed 30s".toList, "dirt:3".toList] := by
    rw [leafTokens_of_tokens h1, List.flatMap_cons, leavesOfToken, if_pos (by decide), hg2,
      leafTokens_of_tokens h2, List.flatMap_cons, List.flatMap_cons, List.flatMap_nil,
      leavesOfToken, if_neg (by decide), leavesOfToken, if_pos (by decide), hg3,
      leafTokens_of_tokens h3]
    rfl
  have hd : ∃ gs, dispatchAll .empty .empty "(perm:a.b, (@speed 30s)), dirt:3" = .ok gs := by
    rw [dispatchAll_of_tokens h1, Outcome.each, Outcome.each, Outcome.each,
      dispatch_group (by decide), hg2, dispatchAll_of_tokens h2, Outcome.each, Outcome.each,
      Outcome.each, dispatch_leaf (by decide) (by decide), dispatch_group (by decide), hg3,
      dispatchAll_of_tokens h3, Outcome.each, Outcome.each,
      dispatch_leaf (by decide) (by decide), dispatch_leaf (by decide) (by decide)]
    exact ⟨_, rfl⟩
  obtain ⟨gs, hgs⟩ := hd
  exact ⟨gs, hgs, hleaves, hleaves ▸ accepted_wellFormed hgs⟩

end Grantable

end Rewards
