import Rewards.Proofs.Label
import Rewards.Proofs.Parentheses
import Rewards.Proofs.Registry
import Rewards.Proofs.Text.Stretch
import Rewards.Proofs.Token.Layout

/-!
One token as a descriptor. A token outside parentheses that is accepted is the only token of the
descriptor, and so is a balanced group. Any other token that starts with a parenthesis is read as what
is left of it without the parentheses at its ends, whether those belong together or not; as a
descriptor it is refused, or starts with a shorter group.
-/

namespace Rewards

open Text Token

/-- An installed kind opens its tokens with neither a comma nor a parenthesis. -/
theorem Registry.opens_cases {qs : List Registration} {e : Entry}
    (he : e ∈ (empty.registerAll qs).entries) {k : Text} (hk : e.opening.Opens k) :
    k ≠ [] ∧ ',' ∉ k ∧ ∀ c ∈ k, isParen c = false := by
  have hl : e.label.opening = .ok e.opening := by
    obtain he | he := List.mem_append.1 he
    · obtain ⟨i, hi⟩ := List.mem_iff_getElem?.1 he
      obtain ⟨q, -, hq⟩ := (holds_registerAll qs).made i e hi
      exact (Registration.parts_of_entry hq).2.2
    · obtain ⟨q, hq⟩ := exists_entry_of_mem_core he
      exact (Registration.parts_of_entry hq).2.2
  exact Label.opens_cases (Label.flaw?_of_opening hl) hl hk

section Agreement

variable {qs : List Registration} {shared : Registry} {t : Text} {g : Grantable}

theorem ne_nil_of_dispatch {r : Registry} (h : dispatch shared r t = .ok g) : trim t ≠ [] := by
  intro hnil
  rw [dispatch_blank hnil] at h
  cases h

theorem dispatch_trim {r : Registry} (hne : trim t ≠ []) :
    dispatch shared r (trim t) = dispatch shared r t := by
  have hne' : trim (trim t) ≠ [] := by rwa [trim_trim]
  by_cases hp : (trim t).head? = some '('
  · rw [dispatch_group hp, dispatch_group (by rwa [trim_trim]), trim_trim]
  · have hp' : (trim (trim t)).head? ≠ some '(' := by rwa [trim_trim]
    cases hf : r.find? (trim t) with
    | some e =>
      rw [dispatch_claimed hne hp hf, dispatch_claimed hne' hp' (by rwa [trim_trim]), trim_trim]
    | none =>
      rw [dispatch_unclaimed hne hp hf, dispatch_unclaimed hne' hp' (by rwa [trim_trim]), trim_trim]

/-- An accepted token outside parentheses is one word. -/
theorem whole_of_dispatch (h : dispatch shared (Registry.empty.registerAll qs) t = .ok g)
    (hp : (trim t).head? ≠ some '(') : Whole (trim t) := by
  have hne := ne_nil_of_dispatch h
  suffices hc : ',' ∉ trim t ∧ ∀ c ∈ (trim t).head?, isParen c = false from
    .inr ⟨⟨hne, trimmed_trim t, hc.1⟩, hc.2⟩
  cases hf : (Registry.empty.registerAll qs).find? (trim t) with
  | some e =>
    have hclaims : e.opening.claims (trim t) = true := by simpa using List.find?_some hf
    obtain ⟨b, hb⟩ := Option.isSome_iff_exists.1 hclaims
    obtain ⟨hbody, k, hk, he⟩ := Opening.opens_of_body? hb
    obtain ⟨hk0, hkc, hkp⟩ := Registry.opens_cases (List.mem_of_find?_eq_some hf) hk
    rw [he, List.head?_append_of_ne_nil _ hk0, List.mem_append, not_or]
    exact ⟨⟨hkc, (Opening.isBody_iff.1 hbody).2⟩, fun c hc => hkp c (List.mem_of_mem_head? hc)⟩
  | none =>
    rw [dispatch_unclaimed hne hp hf, Outcome.mapError_eq_ok_iff] at h
    obtain ⟨i, hi, -⟩ := Outcome.map_eq_ok_iff.1 h
    refine ⟨Item.isOutside_comma.not_mem_of_ofToken hi, fun c hc => ?_⟩
    exact parens_eq_nil_iff.1 (Item.ofToken_cases hi).2 c (List.mem_of_mem_head? hc)

theorem dispatchAll_of_whole {r : Registry} (h : dispatch shared r t = .ok g)
    (ht : Whole (trim t)) : dispatchAll shared r t = .ok [g] := by
  have hts : tokens t = .ok [trim t] := ht.split (trim t)
  rw [dispatchAll_of_tokens hts, Outcome.each, dispatch_trim (ne_nil_of_dispatch h), h]
  rfl

theorem split_open {whole s : Text} {ts : List Text} (h : split whole ('(' :: s) = .ok ts) :
    ∃ b rest us, s = b ++ ')' :: rest ∧ Balanced b ∧ ts = ('(' :: (b ++ [')'])) :: us := by
  rw [split, if_neg (by decide), if_pos rfl] at h
  split at h
  · cases h
  · rename_i body rest hc
    split at h
    · cases h
    · obtain ⟨us, -, rfl⟩ := Outcome.map_eq_ok_iff.1 h
      obtain ⟨b, rfl, hb⟩ := nesting_of_closing hc
      have hs := closing_append hc
      rw [List.append_assoc, List.singleton_append] at hs
      exact ⟨b, rest, us, hs.symm, hb, rfl⟩

/-- A text that starts with a parenthesis but is no group starts with a group or is refused. -/
theorem tokens_of_not_grouped (hp : (trim t).head? = some '(') (hg : ¬Grouped (trim t)) :
    (∃ f, tokens t = .error f) ∨ ∃ b rest ts, trim t = '(' :: (b ++ ')' :: rest) ∧ rest ≠ [] ∧
      Balanced b ∧ tokens t = .ok (('(' :: (b ++ [')'])) :: ts) := by
  cases hts : tokens t with
  | error f => exact .inl ⟨f, rfl⟩
  | ok ts =>
    obtain ⟨s, hs⟩ := List.head?_eq_some_iff.1 hp
    rw [tokens, hs] at hts
    obtain ⟨b, rest, us, rfl, hb, rfl⟩ := split_open hts
    refine .inr ⟨b, rest, us, hs, ?_, hb, rfl⟩
    rintro rfl
    exact hg ⟨b, hs, hb⟩

/-- Behind a group that ends before its text does, the parenthesis of the group is one inside it. -/
theorem parens_ungrouped {b rest : Text} (ht : Trimmed ('(' :: (b ++ ')' :: rest))) (hne : rest ≠ [])
    (hr : parens rest = []) : parens (ungrouped ('(' :: (b ++ ')' :: rest))) = parens b ++ [')'] := by
  obtain ⟨c, hc⟩ : ∃ c, rest.getLast? = some c := ⟨_, List.getLast?_eq_getLast_of_ne_nil hne⟩
  have hlast : (b ++ ')' :: rest).getLast? = some c := by
    rw [List.getLast?_append_of_ne_nil _ (List.cons_ne_nil _ _), ← List.singleton_append,
      List.getLast?_append_of_ne_nil _ hne, hc]
  have hblank : isBlank c = false := ht.2 c (by
    rw [← List.singleton_append, List.getLast?_append_of_ne_nil _ (by simp), hlast]
    rfl)
  have hclose : c ≠ ')' := by
    rintro rfl
    exact absurd (parens_eq_nil_iff.1 hr _ (List.mem_of_getLast? hc)) (by decide)
  rw [ungrouped, trim_of_trimmed ht]
  simp only [ungrouped.dropOpen, ungrouped.dropClose]
  rw [getLast?_trim hlast hblank, if_neg (by simpa using hclose), parens_trim, parens_append,
    parens_cons_of_isParen rfl, hr]

theorem grouped_of_dispatchAll (h : dispatch shared .empty t = .ok g) (hs : Spaced t)
    (hall : dispatchAll shared .empty t = .ok [g]) (hp : (trim t).head? = some '(') :
    Grouped (trim t) := by
  by_contra hg
  obtain ⟨ts, hts, heach⟩ := Grantable.tokens_of_dispatchAll hall
  obtain ⟨f, hf⟩ | ⟨b, rest, us, ht, hne, -, hus⟩ := tokens_of_not_grouped hp hg
  · rw [hf] at hts
    cases hts
  · obtain rfl := Except.ok.inj (hts.symm.trans hus)
    obtain ⟨g', gs', hd, hd', he⟩ := Outcome.each_cons_eq_ok_iff.1 heach
    obtain ⟨rfl, rfl⟩ := List.cons.inj he
    obtain rfl := List.length_eq_zero_iff.1 (Outcome.length_of_each hd').symm
    -- The group is read from `b` as a descriptor, and from more than that as a token.
    rw [dispatch_parenthesized] at hd
    obtain ⟨gs, hgs, rfl⟩ := Outcome.map_eq_ok_iff.1 hd
    rw [dispatch_group hp] at h
    obtain ⟨gs', hgs', he⟩ := Outcome.map_eq_ok_iff.1 h
    obtain rfl := Grantable.group.inj he
    have hsb : Spaced b := hs.trim.part ⟨['('], ')' :: rest, by simp [ht]⟩
    have hsu : Spaced (ungrouped (trim t)) := hs.trim.part (infix_ungrouped _)
    have hparens := parens_tokens hts
    have hrest : parens rest = [] := by
      rw [← parens_trim, ht, parens_cons_of_isParen rfl, parens_append, parens_cons_of_isParen rfl,
        List.map_singleton, List.flatten_singleton, parens_parenthesized] at hparens
      simpa using hparens
    have htrim := trimmed_trim t
    rw [ht] at htrim hgs' hsu
    have hb := Grantable.parensAll_of_dispatchAll hgs hsb
    have hu := Grantable.parensAll_of_dispatchAll hgs' hsu
    rw [parens_ungrouped htrim hne hrest, ← hb] at hu
    simp at hu

/-- A token that stands for `g` is, as a descriptor, a list of `g` alone if it is sound. Otherwise `g`
is the group of what is left between the ends of the token, while the descriptor is refused or starts
with a shorter group. Without kinds of clients, and where only spaces stand between commas and
groups, token and descriptor agree on sound tokens only. -/
theorem single_token_agrees (qs : List Registration) (shared : Registry) {t : Text} {g : Grantable}
    (h : dispatch shared (Registry.empty.registerAll qs) t = .ok g) :
    (Sound (trim t) → dispatchAll shared (Registry.empty.registerAll qs) t = .ok [g]) ∧
    (¬Sound (trim t) →
      (dispatchAll shared (Registry.empty.registerAll qs) (ungrouped (trim t))).map .group = .ok g ∧
      ((∃ f, dispatchAll shared (Registry.empty.registerAll qs) t = .error (.refused (.group f))) ∨
        ∃ b rest ts, trim t = '(' :: (b ++ ')' :: rest) ∧ rest ≠ [] ∧ Balanced b ∧
          tokens t = .ok (('(' :: (b ++ [')'])) :: ts))) ∧
    (qs = [] → Spaced t →
      (dispatchAll shared (Registry.empty.registerAll qs) t = .ok [g] ↔ Sound (trim t))) := by
  -- Outside parentheses the token is a word, and sound.
  have hword : (trim t).head? ≠ some '(' → Sound (trim t) := by
    intro hp
    obtain ⟨b, hb, -⟩ | ⟨-, hhead⟩ := whole_of_dispatch h hp
    · rw [hb] at hp
      exact absurd rfl hp
    · exact ⟨fun hc => absurd (hhead _ hc) (by decide), fun ho => absurd ho hp⟩
  have hagree : Sound (trim t) → dispatchAll shared (Registry.empty.registerAll qs) t = .ok [g] := by
    intro hs
    by_cases hp : (trim t).head? = some '('
    · exact dispatchAll_of_whole h (.inl (hs.2 hp))
    · exact dispatchAll_of_whole h (whole_of_dispatch h hp)
  refine ⟨hagree, fun hs => ?_, ?_⟩
  · have hp : (trim t).head? = some '(' := not_not.1 fun hp => hs (hword hp)
    have hg : ¬Grouped (trim t) := fun hg => hs ⟨by rw [hp]; decide, fun _ => hg⟩
    refine ⟨by rw [← dispatch_group hp, h], ?_⟩
    obtain ⟨f, hf⟩ | hshort := tokens_of_not_grouped hp hg
    · exact .inl ⟨f, by rw [dispatchAll_eq, hf]⟩
    · exact .inr hshort
  · rintro rfl hspaced
    refine ⟨fun hall => ?_, hagree⟩
    by_cases hp : (trim t).head? = some '('
    · exact ⟨by rw [hp]; decide, fun _ => grouped_of_dispatchAll h hspaced hall hp⟩
    · exact hword hp

end Agreement

/-- The first group of the descriptor ends before the token does, and both are read. -/
theorem early_close_disagrees :
    let t : Text := "(perm:a), perm:b)"
    let g : Grantable := .group [.leaf (.permission "a)"), .leaf (.permission "b")]
    dispatch .empty (Registry.empty.registerAll []) t = .ok g ∧ Spaced t ∧ ¬Sound (trim t) ∧
      dispatchAll .empty (Registry.empty.registerAll []) t ≠ .ok [g] := by
  intro t g
  have hspaced : Spaced t := by
    have hj : Tight (joined ", ".toList ["(perm:a)".toList, "perm:b)".toList]) :=
      tight_joined fun u hu => by
        obtain rfl | rfl : u = "(perm:a)".toList ∨ u = "perm:b)".toList := by simpa using hu
        all_goals exact ⟨tight_of_not_mem (by decide), by decide, by decide⟩
    exact hj.spaced
  have hsound : ¬Sound (trim t) := by
    rintro ⟨-, hg⟩
    obtain ⟨b, hb, hbal⟩ := hg (by decide)
    have hall : Balanced (trim t) := hb ▸ hbal.parenthesized
    exact absurd hall (by decide)
  have hin : dispatchAll .empty .empty "perm:a), perm:b" =
      .ok [.leaf (.permission "a)"), .leaf (.permission "b")] := by
    have hts : tokens "perm:a), perm:b" = .ok ["perm:a)".toList, "perm:b".toList] := by
      decide +kernel
    rw [dispatchAll_of_tokens hts, Outcome.each, dispatch_leaf (by decide) (by decide), Outcome.each,
      dispatch_leaf (by decide) (by decide)]
    rfl
  have h : dispatch .empty (Registry.empty.registerAll []) t = .ok g := by
    have hu : ungrouped (trim t) = "perm:a), perm:b".toList := by decide
    have hp : (trim t).head? = some '(' := by decide
    have hd : dispatch .empty .empty t = (dispatchAll .empty .empty (ungrouped (trim t))).map .group :=
      dispatch_group hp
    rw [hu, hin] at hd
    exact hd
  exact ⟨h, hspaced, hsound, fun hall =>
    hsound (((single_token_agrees [] .empty h).2.2 rfl hspaced).1 hall)⟩

end Rewards
