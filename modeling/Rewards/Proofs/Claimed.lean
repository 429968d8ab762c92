import Rewards.Proofs.Containment
import Rewards.Proofs.Item.Accepted

/-!
Tokens that are read as items. A token that breaks as an item breaks in dispatch, too, unless a kind
of a client claims it, since nothing in parentheses and nothing that a built-in kind claims starts
with a material or a number.
-/

namespace Rewards

open Text Catalog

theorem exists_pieces (sep : Char) (s : Text) : ∃ ps, pieces sep s = (cut sep s).1 :: ps := by
  obtain ⟨h, hc⟩ | ⟨a, b, rfl, ha, hc⟩ := cut_cases sep s
  · exact ⟨[], by rw [pieces_of_not_mem h, hc]⟩
  · exact ⟨_, by rw [pieces_append ha, hc]⟩

namespace Item

/-- What stands in the place of the material. -/
def leading (t : Text) : Text := (cut ':' (cut ' ' t).1).1

theorem leading_cons {c : Char} (hs : c ≠ ' ') (hc : c ≠ ':') (t : Text) :
    ∃ s, leading (c :: t) = c :: s := by
  unfold leading
  rw [cut, if_neg hs, cut, if_neg hc]
  exact ⟨_, rfl⟩

theorem leading_append {k : Text} (hs : ' ' ∉ k) (hc : ':' ∉ k) (b : Text) :
    leading (k ++ ':' :: b) = k := by
  unfold leading
  rw [cut_append_fst hs, cut, if_neg (by decide), cut_append hc]

theorem partsBreak_cases {m : Text} {ps : List Text} (h : PartsBreak (m :: ps)) :
    Overlong m ∨ ∃ k, readMaterial m = .ok k := by
  match ps, h with
  | [], h => exact .inl h
  | [_], h | [_, _], h => exact h.imp_right fun ⟨k, hk, _⟩ => ⟨k, hk⟩
  | _ :: _ :: _ :: _, h => exact h.elim

theorem readMaterial_of_readBase {t m : Text} {ps : List Text} {i : Item}
    (h : readBase t = .ok i) (hp : pieces ':' t = m :: ps) : ∃ k, readMaterial m = .ok k := by
  unfold readBase at h
  rw [hp] at h
  match ps, h with
  | [], h | [_], h | [_, _], h =>
    -- However many parts there are, the material is the first that is read.
    obtain ⟨k, hk, -⟩ := Outcome.bind_eq_ok_iff.1 h
    exact ⟨k, hk⟩
  | _ :: _ :: _ :: _, h => cases h

/-- A token without a material in its place does not break. -/
theorem not_breaksIn_of_material? {t : Text} (h : material? (leading t) = .ok none) :
    ¬BreaksIn t := by
  obtain ⟨ps, hp⟩ := exists_pieces ':' (cut ' ' t).1
  have hm : ¬∃ k, readMaterial (leading t) = .ok k := by
    rintro ⟨k, hk⟩
    have := material?_of_readMaterial hk
    rw [h] at this
    cases this
  -- It breaks in its parts, or in what follows an item that has been read.
  rintro (hb | ⟨i, hi, -⟩)
  · rw [hp] at hb
    obtain ho | hk := partsBreak_cases hb
    · -- An overlong number would make a fault of the look-up, which has none.
      obtain ⟨f, hf⟩ := (breaksIff_find? materials _).iff.2 ho
      have hnone : find? materials (leading t) = .ok none := h
      unfold leading at hnone
      rw [hnone] at hf
      cases hf
    · exact hm hk
  · exact hm (readMaterial_of_readBase hi hp)

theorem material?_of_mark {c : Char} (hc : c ∈ marks) (s : Text) :
    material? (c :: s) = .ok none := by
  have hd : ∀ c ∈ marks, isAsciiDigit c = false := by decide
  unfold material? find?
  rw [if_neg (by simp [isNumeral, hd c hc])]
  cases h : named? materials (normalized (c :: s)) with
  | none => rfl
  | some k =>
    have hforeign := isForeign_of_mem_marks c hc
    have hm := hforeign.not_mem_of_named? (fun k hk => (materials_named k hk).1) h
    exact absurd List.mem_cons_self hm

theorem material?_leading_of_mark {c : Char} (hc : c ∈ marks) (s : Text) :
    material? (leading (c :: s)) = .ok none := by
  have hall : ∀ c ∈ marks, c ≠ ' ' ∧ c ≠ ':' := by decide
  obtain ⟨r, hr⟩ := leading_cons (hall c hc).1 (hall c hc).2 s
  rw [hr]
  exact material?_of_mark hc r

theorem not_breaksIn_of_mark {c : Char} (hc : c ∈ marks) (s : Text) : ¬BreaksIn (c :: s) :=
  not_breaksIn_of_material? (material?_leading_of_mark hc s)

/-- What a built-in kind claims has no material in its place. -/
theorem material?_leading_of_body? {o : Opening} (ho : o ∈ [Currency.opening, Permission.opening,
    Effect.opening]) {t b : Text} (h : o.body? t = some b) :
    material? (leading t) = .ok none := by
  obtain ⟨-, k, hk, rfl⟩ := Opening.opens_of_body? h
  cases hk with
  | symbol hs =>
    -- No name of a material and no number has a mark in it.
    have hall : ∀ o ∈ [Currency.opening, Permission.opening, Effect.opening],
        ∀ c ∈ o.symbol, c ∈ marks := by decide
    exact material?_leading_of_mark (hall o ho _ hs) b
  | @keyword k hk =>
    -- Up to the colon there is a keyword, and no keyword is a material.
    have hmem : ∀ o ∈ [Currency.opening, Permission.opening, Effect.opening],
        ∀ k ∈ o.keyword.spellings, k ∈ keywords := by decide
    have hlower := isLowerChar_of_mem_keywords k (hmem o ho k hk)
    rw [List.append_assoc, List.singleton_append, leading_append]
    · exact material?_of_mem_keywords k (hmem o ho k hk)
    · exact fun hs => absurd (hlower _ hs) (by decide)
    · exact fun hc => absurd (hlower _ hc) (by decide)

/-- What a built-in kind claims does not break as an item. -/
theorem not_breaksIn_of_body? {o : Opening} (ho : o ∈ [Currency.opening, Permission.opening,
    Effect.opening]) {t b : Text} (h : o.body? t = some b) : ¬BreaksIn t :=
  not_breaksIn_of_material? (material?_leading_of_body? ho h)

theorem breaks_read_iff {u : Text} :
    Breaks (read (some u)) ↔ trim u ≠ [] ∧ BreaksIn (trim u) := by
  simp only [read, Option.getD_some]
  split
  · rename_i h
    rw [List.isEmpty_iff] at h
    exact iff_of_false (fun ⟨f, hf⟩ => by cases hf) fun hn => hn.1 h
  · rename_i h
    rw [List.isEmpty_iff] at h
    rw [(breaksIff_ofToken _).iff, and_iff_right h]

end Item

/-- A token that breaks as an item and that no kind of a client claims breaks in dispatch. -/
theorem breaks_dispatch_of_item {shared r : Registry} {u : Text}
    (h : Breaks (Item.read (some u)))
    (hc : ∀ e ∈ r.custom, e.opening.claims (trim u) = false) : Breaks (dispatch shared r u) := by
  obtain ⟨hne, hb⟩ := Item.breaks_read_iff.1 h
  have hp : (trim u).head? ≠ some '(' := by
    intro hp
    obtain ⟨s, hs⟩ := List.head?_eq_some_iff.1 hp
    rw [hs] at hb
    exact Item.not_breaksIn_of_mark (by decide) s hb
  have hnone : r.find? (trim u) = none := by
    have hcore : ∀ e ∈ Registry.core,
        e.opening ∈ [Currency.opening, Permission.opening, Effect.opening] := by
      simp [Registry.core]
    unfold Registry.find? Registry.entries
    rw [List.find?_eq_none, List.forall_mem_append]
    refine ⟨fun e he => by simp [hc e he], fun e he hclaims => ?_⟩
    obtain ⟨b, hbody⟩ := Option.isSome_iff_exists.1 hclaims
    exact Item.not_breaksIn_of_body? (hcore e he) hbody hb
  rw [dispatch_unclaimed hne hp hnone]
  exact (((Item.breaksIff_ofToken _).map _).mapError_unknownItem _).iff.2 hb

end Rewards
