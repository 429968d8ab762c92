import Rewards.Proofs.Leaf.Accepted
import Rewards.Proofs.RoundTrip
import Rewards.Proofs.Token.Spacing

/-!
Canonical descriptors of accepted texts. They are stable exactly if all groups are closed, and the
groups of a text are closed if only spaces stand between its commas and its groups.
-/

namespace Rewards.Grantable

open Text Token

theorem mem_leavesAll {gs : List Grantable} {l : Leaf} :
    l ∈ leavesAll gs ↔ ∃ g ∈ gs, l ∈ leaves g := by
  induction gs with
  | nil => simp [leavesAll]
  | cons g gs ih => simp [leavesAll, ih]

theorem dispatch_cases {shared : Registry} {t : Text} {g : Grantable}
    (h : dispatch shared .empty t = .ok g) :
    (∃ l, Leaf.ofToken (trim t) = .ok l ∧ g = leaf l ∧ (trim t).head? ≠ some '(') ∨
      ∃ gs, dispatchAll shared .empty (ungrouped (trim t)) = .ok gs ∧ g = group gs ∧
        (trim t).head? = some '(' := by
  by_cases hne : trim t = []
  · rw [dispatch_blank hne] at h
    cases h
  · by_cases hp : (trim t).head? = some '('
    · rw [dispatch_group hp] at h
      obtain ⟨gs, hgs, rfl⟩ := Outcome.map_eq_ok_iff.1 h
      exact .inr ⟨gs, hgs, rfl, hp⟩
    · rw [dispatch_leaf hne hp] at h
      obtain ⟨l, hl, rfl⟩ := Outcome.map_eq_ok_iff.1 h
      exact .inl ⟨l, hl, rfl, hp⟩

theorem tokens_of_dispatchAll {shared r : Registry} {text : Text} {gs : List Grantable}
    (h : dispatchAll shared r text = .ok gs) :
    ∃ ts, tokens text = .ok ts ∧ Outcome.each (dispatch shared r) ts = .ok gs := by
  rw [dispatchAll_eq] at h
  split at h
  · cases h
  · rename_i ts hts
    exact ⟨ts, hts, h⟩

/-- Everything that is accepted is well-formed. -/
theorem wellFormed_of_dispatchAll {shared : Registry} {text : Text} {gs : List Grantable}
    (h : dispatchAll shared .empty text = .ok gs) : ∀ l ∈ leavesAll gs, l.WellFormed := by
  induction hn : text.length using Nat.strong_induction_on generalizing text gs with
  | _ n ih =>
    obtain ⟨ts, hts, heach⟩ := tokens_of_dispatchAll h
    intro l hl
    obtain ⟨g, hg, hl⟩ := mem_leavesAll.1 hl
    obtain ⟨t, ht, hd⟩ := Outcome.exists_of_mem_each heach g hg
    obtain ⟨l', hl', rfl, -⟩ | ⟨gs', hgs', rfl, hp⟩ := dispatch_cases hd
    · obtain rfl : l = l' := by simpa [leaves] using hl
      exact (Leaf.ofToken_cases hl').1
    · have hlen := length_ungrouped_lt hp
      have htext := tokens_length hts t ht
      exact ih _ (by omega) hgs' rfl l (by simpa [leaves] using hl)

/-- A token and a grantable that is closed and is written with the parentheses of the token. -/
def Keeps (t : Text) (g : Grantable) : Prop :=
  Closed g ∧ ∀ u, canonical g = .ok u → parens u = parens t

theorem keeps_all {shared : Registry} {ts : List Text} {gs : List Grantable}
    (h : Outcome.each (dispatch shared .empty) ts = .ok gs)
    (hk : ∀ t ∈ ts, ∀ g, dispatch shared .empty t = .ok g → Keeps t g) :
    ClosedAll gs ∧ ∀ us, canonicals gs = .ok us →
      (us.map parens).flatten = (ts.map parens).flatten := by
  induction ts generalizing gs with
  | nil =>
    cases h
    refine ⟨trivial, fun us hus => ?_⟩
    cases hus
    rfl
  | cons t ts ih =>
    obtain ⟨g, gs', hg, hgs, rfl⟩ := Outcome.each_cons_eq_ok_iff.1 h
    obtain ⟨hkt, hkts⟩ := List.forall_mem_cons.1 hk
    obtain ⟨hc, hp⟩ := hkt g hg
    obtain ⟨hcs, hps⟩ := ih hgs hkts
    refine ⟨⟨hc, hcs⟩, fun us hus => ?_⟩
    obtain ⟨u, vs, hu, hvs, rfl⟩ := canonicals_cons_eq_ok_iff.1 hus
    rw [List.map_cons, List.flatten_cons, hp u hu, hps vs hvs, List.map_cons, List.flatten_cons]

/-- Where only spaces stand between commas and groups, groups are closed, and the canonical
descriptor has the parentheses of the text. -/
theorem closed_of_spaced {shared : Registry} {text : Text} {gs : List Grantable}
    (h : dispatchAll shared .empty text = .ok gs) (hs : Spaced text) :
    ClosedAll gs ∧ ∀ u, describe gs = .ok u → parens u = parens text := by
  induction hn : text.length using Nat.strong_induction_on generalizing text gs with
  | _ n ih =>
    obtain ⟨ts, hts, heach⟩ := tokens_of_dispatchAll h
    have hw := wellFormed_of_dispatchAll h
    have hk : ∀ t ∈ ts, ∀ g, dispatch shared .empty t = .ok g → Keeps t g := by
      intro t ht g hg
      obtain ⟨b, rfl, hb, hsb⟩ | hhead := clear_of_mem_tokens hts hs t ht
      · rw [dispatch_parenthesized] at hg
        obtain ⟨gs', hgs', rfl⟩ := Outcome.map_eq_ok_iff.1 hg
        have hlen := tokens_length hts _ ht
        simp only [List.length_cons, List.length_append] at hlen
        obtain ⟨hc, hp⟩ := ih b.length (by omega) hgs' hsb rfl
        refine ⟨⟨hc, fun u hu => (balanced_congr (hp u hu)).2 hb⟩, fun v hv => ?_⟩
        obtain ⟨u, hu, rfl⟩ := canonical_group_eq_ok_iff.1 hv
        rw [parens_parenthesized, hp u hu, parens_parenthesized]
      · have htrim : trim t = t := trim_of_trimmed (trimmed_of_mem_split hts t ht).2
        obtain ⟨l, hl, rfl, -⟩ | ⟨_, _, _, hp⟩ := dispatch_cases hg
        · obtain ⟨hwl, hpl⟩ := Leaf.ofToken_cases hl
          refine ⟨trivial, fun u hu => ?_⟩
          rw [Leaf.parens_canonical hwl hu, hpl, parens_trim]
        · rw [htrim] at hp
          exact absurd hp hhead
    obtain ⟨hc, hp⟩ := keeps_all heach hk
    refine ⟨hc, fun u hu => ?_⟩
    obtain ⟨us, hus, rfl⟩ := describe_eq_ok_iff.1 hu
    rw [parens_joined, hp us hus, parens_tokens hts]

mutual

/-- What is written for a well-formed grantable has commas between tokens only. -/
theorem tight_canonical : ∀ (g : Grantable), (∀ l ∈ leaves g, l.WellFormed) →
    ∀ t, canonical g = .ok t → Tight t ∧ t ≠ [] ∧ Trimmed t
  | leaf l, hw, t, ht => by
    have hp := (Leaf.readsBack (hw l (by simp [leaves])) ht).plain
    exact ⟨tight_of_not_mem hp.comma, hp.ne_nil, hp.trimmed⟩
  | group gs, hw, t, ht => by
    obtain ⟨b, hb, rfl⟩ := canonical_group_eq_ok_iff.1 ht
    obtain ⟨ts, hts, rfl⟩ := describe_eq_ok_iff.1 hb
    have h := tight_canonicals gs (by simpa [leaves] using hw) ts hts
    exact ⟨(tight_joined h).parenthesized, List.cons_ne_nil _ _, trimmed_parenthesized _⟩

theorem tight_canonicals : ∀ (gs : List Grantable), (∀ l ∈ leavesAll gs, l.WellFormed) →
    ∀ ts, canonicals gs = .ok ts → ∀ t ∈ ts, Tight t ∧ t ≠ [] ∧ Trimmed t
  | [], _, ts, hts => by
    cases hts
    simp
  | g :: gs, hw, ts, hts => by
    simp only [leavesAll, List.mem_append] at hw
    obtain ⟨t, us, ht, hus, rfl⟩ := canonicals_cons_eq_ok_iff.1 hts
    exact List.forall_mem_cons.2 ⟨tight_canonical g (fun l hl => hw l (.inl hl)) t ht,
      tight_canonicals gs (fun l hl => hw l (.inr hl)) us hus⟩

end

mutual

/-- Equal grantables are written the same, and both are closed or none is. -/
theorem canonical_eq_of_same : ∀ (g g' : Grantable), (∀ l ∈ leaves g, l.WellFormed) →
    (∀ l ∈ leaves g', l.WellFormed) → same g g' = true →
    canonical g = canonical g' ∧ (Closed g → Closed g')
  | leaf l, leaf l', hw, hw', hs =>
    ⟨Leaf.canonical_eq_of_same (hw l (by simp [leaves])) (hw' l' (by simp [leaves])) hs, id⟩
  | group gs, group gs', hw, hw', hs => by
    obtain ⟨hcan, hclosed⟩ := canonicals_eq_of_same gs gs' (by simpa [leaves] using hw)
      (by simpa [leaves] using hw') hs
    refine ⟨by rw [canonical, canonical, hcan], fun hc => ⟨hclosed hc.1, fun t ht => hc.2 t ?_⟩⟩
    rw [describe, hcan]
    exact ht
  | leaf _, group _, _, _, hs => by cases hs
  | group _, leaf _, _, _, hs => by cases hs

theorem canonicals_eq_of_same : ∀ (gs gs' : List Grantable), (∀ l ∈ leavesAll gs, l.WellFormed) →
    (∀ l ∈ leavesAll gs', l.WellFormed) → sameAll gs gs' = true →
    canonicals gs = canonicals gs' ∧ (ClosedAll gs → ClosedAll gs')
  | [], [], _, _, _ => ⟨rfl, id⟩
  | g :: gs, g' :: gs', hw, hw', hs => by
    simp only [leavesAll, List.mem_append] at hw hw'
    rw [sameAll, Bool.and_eq_true] at hs
    obtain ⟨h1, h2⟩ := canonical_eq_of_same g g' (fun l hl => hw l (.inl hl))
      (fun l hl => hw' l (.inl hl)) hs.1
    obtain ⟨h3, h4⟩ := canonicals_eq_of_same gs gs' (fun l hl => hw l (.inr hl))
      (fun l hl => hw' l (.inr hl)) hs.2
    exact ⟨by rw [canonicals, canonicals, h1, h3], fun hc => ⟨h2 hc.1, h4 hc.2⟩⟩
  | [], _ :: _, _, _, hs => by cases hs
  | _ :: _, [], _, _, hs => by cases hs

end

/-- The canonical descriptor of an accepted text is accepted, stands for the same and is its own
canonical descriptor, exactly if every group is closed. Blanks other than spaces between a comma
and a group are all that can keep a group from being closed. -/
theorem canonical_stable_iff_closed {shared : Registry} {text : Text} {gs : List Grantable}
    (h : dispatchAll shared .empty text = .ok gs) {t : Text} (ht : describe gs = .ok t) :
    ((∃ gs', dispatchAll shared .empty t = .ok gs' ∧ sameAll gs' gs = true ∧
      describe gs' = .ok t) ↔ ClosedAll gs) ∧ (Spaced text → ClosedAll gs) := by
  have hw := wellFormed_of_dispatchAll h
  refine ⟨⟨?_, fun hc => dispatchAll_describe shared hw hc ht⟩, fun hs => (closed_of_spaced h hs).1⟩
  rintro ⟨gs', hgs', hsame, -⟩
  obtain ⟨ts, hts, rfl⟩ := describe_eq_ok_iff.1 ht
  have hspaced := (tight_joined (tight_canonicals gs hw ts hts)).spaced
  have hclosed := (closed_of_spaced hgs' hspaced).1
  exact (canonicals_eq_of_same gs' gs (wellFormed_of_dispatchAll hgs') hw hsame).2 hclosed

/-- The tab keeps the group from being split off, so that its parenthesis ends up in the node. -/
theorem canonical_unstable_after_tab :
    dispatchAll .empty .empty ",\t(perm:a)b" = .ok [group [leaf (.permission "a)b")]] ∧
      describe [group [leaf (.permission "a)b")]] = .ok "(perm:a)b)".toList ∧
      ¬∃ gs', dispatchAll .empty .empty "(perm:a)b)" = .ok gs' ∧
        sameAll gs' [group [leaf (.permission "a)b")]] = true ∧
        describe gs' = .ok "(perm:a)b)".toList := by
  have hin : dispatchAll .empty .empty "perm:a)b" = .ok [leaf (.permission "a)b")] := by
    have ht : tokens "perm:a)b" = .ok ["perm:a)b".toList] := by decide +kernel
    rw [dispatchAll_of_tokens ht, Outcome.each, dispatch_leaf (by decide) (by decide)]
    rfl
  have h : dispatchAll .empty .empty ",\t(perm:a)b" =
      .ok [group [leaf (.permission "a)b")]] := by
    have ht : tokens ",\t(perm:a)b" = .ok ["(perm:a)b".toList] := by decide +kernel
    rw [dispatchAll_of_tokens ht, Outcome.each, dispatch_group (by decide),
      show ungrouped (trim "(perm:a)b".toList) = "perm:a)b".toList by decide, hin]
    rfl
  have ht : describe [group [leaf (.permission "a)b")]] = .ok "(perm:a)b)".toList := rfl
  refine ⟨h, ht, fun hs => ?_⟩
  have hb := ((canonical_stable_iff_closed h ht).1.1 hs).1.2 _ rfl
  exact absurd hb (by decide)

end Rewards.Grantable
