import Rewards.Proofs.Dispatch
import Rewards.Proofs.Load.Run
import Rewards.Proofs.Readable

/-!
What gets out of reading a text. Its flaws are refused; a fault gets out exactly if the first token
that cannot be read has a numeral that is too long or the long s as a unit.
-/

namespace Rewards

open Text

theorem BreaksIff.mapError_unknownItem {α : Type} {x : Except Failure α} {p : Prop}
    (h : BreaksIff x p) (t : Text) : BreaksIff (x.mapError (unknownItem t)) p := by
  cases x with
  | ok a => exact (BreaksIff.ok a).congr ((BreaksIff.ok a).iff.symm.trans h.iff)
  | error e =>
    cases e with
    | broken f => exact h
    | refused r =>
      have hr := h.ofText _ rfl
      have hp := (BreaksIff.refused (α := α) hr).iff.symm.trans h.iff
      cases r with
      | value f => exact (BreaksIff.refused (r := .unknown t f) trivial).congr hp
      | _ => exact h

namespace Leaf

/-- A token outside parentheses breaks as an effect, or as an item if no kind claims it. Amounts of
money and permissions never break. -/
def BreaksIn (t : Text) : Prop :=
  Currency.opening.body? t = none ∧ Permission.opening.body? t = none ∧
    match Effect.opening.body? t with
    | some b => Effect.BreaksIn b
    | none => Item.BreaksIn t

theorem breaksIff_currency (b : Text) : BreaksIff (Currency.ofBody b) False := by
  simp only [Currency.ofBody]
  split
  · exact BreaksIff.lack _
  · split
    · exact BreaksIff.refuse _ _
    · split
      · exact BreaksIff.ok _
      · exact BreaksIff.value _

theorem breaksIff_permission (b : Text) : BreaksIff (Permission.ofBody b) False := by
  rw [Permission.ofBody]
  split
  · exact BreaksIff.lack _
  · exact BreaksIff.ok _

theorem breaksIff_ofToken (t : Text) : BreaksIff (ofToken t) (BreaksIn t) := by
  rw [ofToken, BreaksIn]
  cases Currency.opening.body? t with
  | some b => exact ((breaksIff_currency b).map _).congr (by simp)
  | none =>
    cases Permission.opening.body? t with
    | some b => exact ((breaksIff_permission b).map _).congr (by simp)
    | none =>
      cases Effect.opening.body? t with
      | some b => exact ((Effect.breaksIff_ofBody b).map _).congr (by simp)
      | none =>
        exact (((Item.breaksIff_ofToken t).map _).mapError_unknownItem t).congr (by simp)

theorem not_breaksIn_of_readable {t : Text} (h : Readable t) : ¬BreaksIn t := by
  rintro ⟨-, -, hb⟩
  split at hb
  · rename_i b hs
    exact Effect.not_breaksIn_of_readable (h.suffix (Opening.suffix_of_body? hs)) hb
  · exact Item.not_breaksIn_of_readable h hb

end Leaf

/-- A token that breaks: one outside parentheses that breaks as a leaf, or a group in which the first
token that cannot be read breaks. -/
inductive TokenBreaks (shared : Registry) : Text → Prop
  | leaf {t : Text} (hne : trim t ≠ []) (hp : (trim t).head? ≠ some '(')
      (h : Leaf.BreaksIn (trim t)) : TokenBreaks shared t
  | group {t u : Text} {pre post : List Text} (hp : (trim t).head? = some '(')
      (hts : tokens (ungrouped (trim t)) = .ok (pre ++ u :: post))
      (hpre : ∀ b ∈ pre, ∃ g, dispatch shared .empty b = .ok g)
      (h : TokenBreaks shared u) : TokenBreaks shared t

/-- A text that can be split and whose first token that cannot be read breaks. -/
def TextBreaks (shared : Registry) (text : Text) : Prop :=
  ∃ ts, tokens text = .ok ts ∧ FirstUnread (dispatch shared .empty) (TokenBreaks shared) ts

variable {shared : Registry}

theorem tokenBreaks_group_iff {t : Text} (hp : (trim t).head? = some '(') :
    TokenBreaks shared t ↔ TextBreaks shared (ungrouped (trim t)) := by
  constructor
  · rintro (⟨-, hp', -⟩ | ⟨-, hts, hpre, h⟩)
    · exact absurd hp hp'
    · exact ⟨_, hts, _, _, _, rfl, hpre, h⟩
  · rintro ⟨_, hts, pre, u, post, rfl, hpre, h⟩
    exact .group hp hts hpre h

theorem tokenBreaks_leaf_iff {t : Text} (hne : trim t ≠ []) (hp : (trim t).head? ≠ some '(') :
    TokenBreaks shared t ↔ Leaf.BreaksIn (trim t) := by
  constructor
  · rintro (⟨-, -, h⟩ | ⟨hp', -, -, -⟩)
    · exact h
    · exact absurd hp' hp
  · exact .leaf hne hp

theorem not_tokenBreaks_blank {t : Text} (h : trim t = []) : ¬TokenBreaks shared t := by
  rintro (⟨hne, -, -⟩ | ⟨hp, -, -, -⟩)
  · exact hne h
  · rw [h] at hp
    cases hp

/-- One token, given that shorter texts break as they should. -/
theorem breaksIff_dispatch_of {t : Text} (ih : ∀ text : Text, text.length < t.length →
    BreaksIff (dispatchAll shared .empty text) (TextBreaks shared text)) :
    BreaksIff (dispatch shared .empty t) (TokenBreaks shared t) := by
  by_cases hne : trim t = []
  · rw [dispatch_blank hne]
    exact (BreaksIff.lack _).congr (iff_of_false id (not_tokenBreaks_blank hne))
  · by_cases hp : (trim t).head? = some '('
    · rw [dispatch_group hp, tokenBreaks_group_iff hp]
      exact (ih _ (length_ungrouped_lt hp)).map _
    · rw [dispatch_leaf hne hp, tokenBreaks_leaf_iff hne hp]
      exact (Leaf.breaksIff_ofToken _).map _

theorem breaksIff_dispatchAll (shared : Registry) (text : Text) :
    BreaksIff (dispatchAll shared .empty text) (TextBreaks shared text) := by
  induction hn : text.length using Nat.strong_induction_on generalizing text with
  | _ n ih =>
    rw [dispatchAll_eq]
    split
    · rename_i f h
      have := BreaksIff.refused (α := List Grantable) (r := .group f) trivial
      exact this.congr (iff_of_false id (by simp [TextBreaks, h]))
    · rename_i ts h
      have ht : ∀ t ∈ ts, BreaksIff (dispatch shared .empty t) (TokenBreaks shared t) :=
        fun t ht => breaksIff_dispatch_of fun u hu =>
          ih u.length (by have := tokens_length h t ht; omega) u rfl
      exact (BreaksIff.each ht).congr (by simp [TextBreaks, h])

theorem breaksIff_dispatch (shared : Registry) (t : Text) :
    BreaksIff (dispatch shared .empty t) (TokenBreaks shared t) :=
  breaksIff_dispatch_of fun text _ => breaksIff_dispatchAll shared text

theorem not_tokenBreaks_of_readable {t : Text} (h : Readable t) : ¬TokenBreaks shared t := by
  intro hb
  induction hb with
  | leaf _ _ hl => exact Leaf.not_breaksIn_of_readable h.trim hl
  | group _ hts _ _ ih =>
    refine ih ((h.trim.stretch (infix_ungrouped _)).stretch (Token.infix_of_mem_tokens hts _ ?_))
    exact List.mem_append_right _ List.mem_cons_self

theorem not_textBreaks_of_readable {text : Text} (h : Readable text) :
    ¬TextBreaks shared text := by
  rintro ⟨ts, hts, pre, u, post, rfl, -, hb⟩
  refine not_tokenBreaks_of_readable (h.stretch (Token.infix_of_mem_tokens hts u ?_)) hb
  exact List.mem_append_right _ List.mem_cons_self

namespace Loading

variable {α : Type} {read : Text → Except Failure α}

/-- A lenient reader of tokens fails only where a token breaks. -/
theorem values_fails_iff {context : Text} {ts : List Text} {j : Journal} :
    (∃ e j', (values read false context ts).run j = (.error e, j')) ↔ ∃ t ∈ ts, Breaks (read t) := by
  induction ts generalizing j with
  | nil => simp [values, run_pure]
  | cons t ts ih =>
    simp only [List.mem_cons, exists_eq_or_imp]
    rw [values]
    split
    · rename_i a h
      have hb : ¬Breaks (read t) := by simp [Breaks, h]
      rw [or_iff_right hb, ← ih (j := j), run_bind]
      rcases (values read false context ts).run j with ⟨_ | _, _⟩ <;> simp [run_pure]
    · rename_i r h
      have hb : ¬Breaks (read t) := by simp [Breaks, h]
      rw [or_iff_right hb, run_bind, run_refusal_lenient]
      exact ih
    · rename_i f h
      exact iff_of_true ⟨_, _, run_throw _ j⟩ (.inl ⟨f, h⟩)

/-- A lenient reader of a descriptor fails only where one of its tokens breaks. -/
theorem descriptor_fails_iff {context text : Text} {j : Journal} :
    (∃ e j', (descriptor read false context text).run j = (.error e, j')) ↔
      ∃ ts, tokens text = .ok ts ∧ ∃ t ∈ ts, Breaks (read t) := by
  rw [descriptor]
  split
  · rename_i ts h
    rw [values_fails_iff]
    simp [h]
  · rename_i f h
    rw [run_bind, run_refusal_lenient]
    simp [run_pure, h]

end Loading

/-- Failures of texts are contained. Whatever the text is, only its flaws and two faults get out of
reading it, and a fault does exactly if the first token that cannot be read breaks. A lenient reader
fails exactly if a token breaks, and without a numeral that is too long and the long s none does. -/
theorem failures_contained (shared : Registry) (text : Text) :
    (∀ e, dispatchAll shared .empty text = .error e ∨ dispatch shared .empty text = .error e →
      e.OfText) ∧
    (Breaks (dispatchAll shared .empty text) ↔ TextBreaks shared text) ∧
    (Breaks (dispatch shared .empty text) ↔ TokenBreaks shared text) ∧
    (∀ context j, (∃ e j', (Loading.descriptor (dispatch shared .empty) false context text).run j =
      (.error e, j')) ↔ ∃ ts, tokens text = .ok ts ∧ ∃ t ∈ ts, TokenBreaks shared t) ∧
    (Readable text → ¬TextBreaks shared text ∧ ¬TokenBreaks shared text ∧
      ∀ ts, tokens text = .ok ts → ∀ t ∈ ts, ¬TokenBreaks shared t) := by
  have hall := breaksIff_dispatchAll shared text
  have hone := breaksIff_dispatch shared text
  refine ⟨fun e h => h.elim (hall.ofText e) (hone.ofText e), hall.iff, hone.iff, fun c j => ?_,
    fun h => ⟨not_textBreaks_of_readable h, not_tokenBreaks_of_readable h, ?_⟩⟩
  · simp only [Loading.descriptor_fails_iff, (breaksIff_dispatch shared _).iff]
  · intro ts hts t ht
    exact not_tokenBreaks_of_readable (h.stretch (Token.infix_of_mem_tokens hts t ht))

/-- The long s is matched as a unit in either case, and then is none. -/
theorem long_s_gets_out :
    dispatchAll .empty .empty "eff:speed 1ſ" = .error (.broken (.unknownUnit 'ſ')) ∧
      TextBreaks .empty "eff:speed 1ſ" ∧ ¬Readable "eff:speed 1ſ" := by
  have h : dispatchAll .empty .empty "eff:speed 1ſ" = .error (.broken (.unknownUnit 'ſ')) := by
    have ht : tokens "eff:speed 1ſ" = .ok ["eff:speed 1ſ".toList] := by decide +kernel
    rw [dispatchAll_of_tokens ht, Outcome.each, dispatch_leaf (by decide) (by decide)]
    rfl
  obtain ⟨-, hb, -, -, hr⟩ := failures_contained .empty "eff:speed 1ſ"
  have ht := hb.1 ⟨_, h⟩
  exact ⟨h, ht, fun hs => (hr hs).1 ht⟩

end Rewards
