import Rewards.Proofs.Closed

/-!
Descriptors read back as they are written, if the groups are closed.
-/

namespace Rewards.Grantable

open Text Token

mutual

theorem reads_back (shared : Registry) : ∀ (g : Grantable), (∀ l ∈ leaves g, l.WellFormed) →
    Closed g → ∀ t, canonical g = .ok t →
    Whole t ∧ ∃ g', dispatch shared .empty t = .ok g' ∧ same g' g = true ∧ canonical g' = .ok t
  | leaf l, hw, _, t, ht => by
    obtain ⟨hp, hh, l', hr, hs, hc⟩ := Leaf.readsBack (hw l (by simp [leaves])) ht
    refine ⟨.inr ⟨hp, hh⟩, leaf l', ?_, hs, hc⟩
    have htrim := trim_of_trimmed hp.trimmed
    rw [dispatch_leaf (by rw [htrim]; exact hp.ne_nil), htrim, hr]
    · rfl
    · rw [htrim]
      intro h
      exact absurd (hh '(' h) (by decide)
  | group gs, hw, hc, t, ht => by
    obtain ⟨b, hb, rfl⟩ := canonical_group_eq_ok_iff.1 ht
    obtain ⟨ts, hts, hj⟩ := describe_eq_ok_iff.1 hb
    obtain ⟨hwhole, gs', hr, hs, hcs⟩ :=
      all_read_back shared gs (by simpa [leaves] using hw) hc.1 ts hts
    refine ⟨.inl ⟨b, rfl, hc.2 b hb⟩, group gs', ?_, hs, ?_⟩
    · rw [dispatch_parenthesized, ← hj, dispatchAll_of_tokens (tokens_joined hwhole), hr]
      rfl
    · exact canonical_group_eq_ok_iff.2 ⟨b, describe_eq_ok_iff.2 ⟨ts, hcs, hj⟩, rfl⟩

theorem all_read_back (shared : Registry) : ∀ (gs : List Grantable),
    (∀ l ∈ leavesAll gs, l.WellFormed) → ClosedAll gs → ∀ ts, canonicals gs = .ok ts →
    (∀ t ∈ ts, Whole t) ∧ ∃ gs', Outcome.each (dispatch shared .empty) ts = .ok gs' ∧
      sameAll gs' gs = true ∧ canonicals gs' = .ok ts
  | [], _, _, ts, hts => by
    obtain rfl : _ = ts := Except.ok.inj hts
    exact ⟨by simp, [], rfl, rfl, rfl⟩
  | g :: gs, hw, hc, ts, hts => by
    obtain ⟨t, us, ht, hus, rfl⟩ := canonicals_cons_eq_ok_iff.1 hts
    simp only [leavesAll, List.mem_append] at hw
    obtain ⟨hwt, g', hr, hs, hcg⟩ := reads_back shared g (fun l hl => hw l (.inl hl)) hc.1 t ht
    obtain ⟨hwu, gs', hrs, hss, hcgs⟩ :=
      all_read_back shared gs (fun l hl => hw l (.inr hl)) hc.2 us hus
    refine ⟨List.forall_mem_cons.2 ⟨hwt, hwu⟩, g' :: gs', ?_, ?_, ?_⟩
    · exact Outcome.each_cons_eq_ok_iff.2 ⟨g', gs', hr, hrs, rfl⟩
    · rw [sameAll, hs, hss]
      rfl
    · exact canonicals_cons_eq_ok_iff.2 ⟨t, us, hcg, hcgs, rfl⟩

end

/-- A descriptor with closed groups is accepted, and what it stands for is written the same. -/
theorem dispatchAll_describe (shared : Registry) {gs : List Grantable}
    (hw : ∀ l ∈ leavesAll gs, l.WellFormed) (hc : ClosedAll gs) {t : Text}
    (ht : describe gs = .ok t) :
    ∃ gs', dispatchAll shared .empty t = .ok gs' ∧ sameAll gs' gs = true ∧
      describe gs' = .ok t := by
  obtain ⟨ts, hts, rfl⟩ := describe_eq_ok_iff.1 ht
  obtain ⟨hwhole, gs', hr, hs, hcs⟩ := all_read_back shared gs hw hc ts hts
  refine ⟨gs', ?_, hs, describe_eq_ok_iff.2 ⟨ts, hcs, rfl⟩⟩
  rw [dispatchAll_of_tokens (tokens_joined hwhole), hr]

mutual

theorem exists_canonical : ∀ (g : Grantable),
    (∀ l ∈ leaves g, l.WellFormed ∧ ∀ n ∈ l.integers, IsShort n) → ∃ t, canonical g = .ok t
  | leaf l, h => by
    obtain ⟨hw, hs⟩ := h l (by simp [leaves])
    exact Leaf.exists_canonical hw hs
  | group gs, h => by
    obtain ⟨ts, hts⟩ := exists_canonicals gs (by simpa [leaves] using h)
    exact ⟨_, canonical_group_eq_ok_iff.2 ⟨_, describe_eq_ok_iff.2 ⟨ts, hts, rfl⟩, rfl⟩⟩

theorem exists_canonicals : ∀ (gs : List Grantable),
    (∀ l ∈ leavesAll gs, l.WellFormed ∧ ∀ n ∈ l.integers, IsShort n) → ∃ ts, canonicals gs = .ok ts
  | [], _ => ⟨[], rfl⟩
  | g :: gs, h => by
    simp only [leavesAll, List.mem_append] at h
    obtain ⟨t, ht⟩ := exists_canonical g fun l hl => h l (.inl hl)
    obtain ⟨us, hus⟩ := exists_canonicals gs fun l hl => h l (.inr hl)
    exact ⟨t :: us, canonicals_cons_eq_ok_iff.2 ⟨t, us, ht, hus, rfl⟩⟩

end

/-- Well-formed grantables with balanced nodes, at any depth, have a descriptor that is read as
equal grantables. -/
theorem describe_reads_back (shared : Registry) (gs : List Grantable)
    (hw : ∀ l ∈ leavesAll gs, l.WellFormed ∧ l.Balanced)
    (hs : ∀ l ∈ leavesAll gs, ∀ n ∈ l.integers, IsShort n) :
    ∃ t gs', describe gs = .ok t ∧ dispatchAll shared .empty t = .ok gs' ∧
      sameAll gs' gs = true := by
  obtain ⟨ts, hts⟩ := exists_canonicals gs fun l hl => ⟨(hw l hl).1, hs l hl⟩
  have ht : describe gs = .ok (joined ", ".toList ts) := describe_eq_ok_iff.2 ⟨ts, hts, rfl⟩
  obtain ⟨gs', hr, hsame, -⟩ := dispatchAll_describe shared (fun l hl => (hw l hl).1)
    (balanced_canonicals gs hw).1 ht
  exact ⟨_, gs', ht, hr, hsame⟩

/-- A bow with an enchantment, and a group with a balanced node, an empty group and an amount. -/
def sample : List Grantable := [
  .leaf (.item ⟨⟨261, "BOW"⟩, 1, 0, [("ARROW_DAMAGE".toList, -2)]⟩),
  .group [.leaf (.permission "kit.(vip)"), .group [], .leaf (.currency 2.5)]]

theorem sample_reads_back : (∀ l ∈ leavesAll sample, l.WellFormed ∧ l.Balanced) ∧
    (∀ l ∈ leavesAll sample, ∀ n ∈ l.integers, IsShort n) ∧
    ∃ t gs', describe sample = .ok t ∧ dispatchAll .empty .empty t = .ok gs' ∧
      sameAll gs' sample = true := by
  have hw : ∀ l ∈ leavesAll sample, l.WellFormed ∧ l.Balanced := by
    simp only [sample, leavesAll, leaves, List.append_nil, List.nil_append, List.singleton_append,
      List.forall_mem_cons, List.not_mem_nil, false_implies, implies_true, and_true]
    refine ⟨⟨⟨by decide +kernel, by decide, by decide, by decide, by decide +kernel, by decide⟩,
      trivial⟩, ⟨⟨by decide, by decide, by decide⟩, ?_⟩, ?_, trivial⟩
    · change Balanced "kit.(vip)".toList
      decide
    · change (Decimal.Binary.ofFloat 2.5).isFinite = true
      decide
  have hs : ∀ l ∈ leavesAll sample, ∀ n ∈ l.integers, IsShort n := by
    decide
  exact ⟨hw, hs, describe_reads_back .empty sample hw hs⟩

end Rewards.Grantable
