import Rewards.Proofs.Effect.Fault
import Rewards.Proofs.Item.Fault
import Rewards.Proofs.Text.Stretch

/-!
Texts without a fault. A text whose numerals are short enough and that has no long s breaks no
reading, whatever part of it is read.
-/

namespace Rewards

open Text Catalog

namespace Text

/-- The text has no long s and no more than `maxDigits` digits in a row. -/
def Readable (s : Text) : Prop :=
  'ſ' ∉ s ∧ ∀ ds, ds <:+: s → (∀ c ∈ ds, isDigit c) → ds.length ≤ maxDigits

namespace Readable

variable {s t : Text}

theorem stretch (h : Readable s) (hi : t <:+: s) : Readable t :=
  ⟨fun hm => h.1 (hi.subset hm), fun ds hds => h.2 ds (hds.trans hi)⟩

theorem suffix (h : Readable s) (hi : t <:+ s) : Readable t := h.stretch hi.isInfix

theorem trim (h : Readable s) : Readable (trim s) := h.stretch (infix_trim s)

theorem piece (h : Readable s) {sep : Char} (ht : t ∈ pieces sep s) : Readable t :=
  h.stretch (infix_of_mem_pieces ht)

theorem word (h : Readable s) (ht : t ∈ words s) : Readable t := h.stretch (infix_of_mem_words ht)

theorem not_overlong (h : Readable s) : ¬Overlong s := by
  rintro ⟨hd, hl⟩
  have := h.2 s (List.infix_refl s) fun c hc => isDigit_of_isAsciiDigit (List.all_eq_true.1 hd c hc)
  omega

end Readable

end Text

namespace Duration

/-- Pairs of a number and a unit are stretches of the text. -/
theorem mem_unitPairs? {ds s : Text} {ps : List (Text × Char)} (h : unitPairs? ds s = some ps)
    (hds : ∀ c ∈ ds, isDigit c) :
    ∀ p ∈ ps, p.1 <:+: ds ++ s ∧ (∀ c ∈ p.1, isDigit c) ∧ p.2 ∈ s := by
  induction s generalizing ds ps with
  | nil =>
    rw [unitPairs?] at h
    split at h <;> cases h
    simp
  | cons c s ih =>
    rw [unitPairs?] at h
    split at h
    · rename_i hc
      intro p hp
      obtain ⟨h1, h2, h3⟩ := ih h (List.forall_mem_append.2 ⟨hds, by simpa using hc⟩) p hp
      rw [List.append_assoc] at h1
      exact ⟨h1, h2, List.mem_cons_of_mem _ h3⟩
    · split at h
      · obtain ⟨qs, hq, rfl⟩ := Option.map_eq_some_iff.1 h
        refine List.forall_mem_cons.2 ⟨⟨(List.prefix_append _ _).isInfix, hds, by simp⟩, ?_⟩
        intro p hp
        obtain ⟨h1, h2, h3⟩ := ih hq (by simp) p hp
        have hs : s <:+ ds ++ c :: s := ⟨ds ++ [c], by simp⟩
        exact ⟨h1.trans hs.isInfix, h2, List.mem_cons_of_mem _ h3⟩
      · cases h

theorem not_breaksIn_of_readable {t : Text} (h : Readable t) : ¬BreaksIn t := by
  rintro (ho | ⟨ps, hps, p, hp, hb⟩)
  · exact h.not_overlong ho
  · obtain ⟨hi, hd, hu⟩ := mem_unitPairs? hps (by simp) p hp
    obtain hl | hu' := hb
    · have := h.2 p.1 hi hd
      omega
    · exact h.1 (hu' ▸ hu)

end Duration

theorem Effect.not_breaksIn_of_readable {b : Text} (h : Readable b) : ¬BreaksIn b := by
  rintro ⟨name, rest, hw, hl, hb⟩
  have hr : ∀ w ∈ name :: rest, Readable w := fun w hm => h.trim.word (by rwa [hw])
  obtain ⟨hname, hrest⟩ := List.forall_mem_cons.1 hr
  obtain ho | ⟨k, -, hp⟩ := hb
  · exact hname.not_overlong ho
  · match rest, hp with
    | [a], hp => exact Duration.not_breaksIn_of_readable (hrest a (by simp)) hp.2
    | [a, l], .inl ho => exact (hrest a (by simp)).not_overlong ho
    | [a, l], .inr ⟨n, _, hb⟩ =>
      exact Duration.not_breaksIn_of_readable (hrest l (by simp)) hb

namespace Item

theorem suffix_unsigned (s : Text) : unsigned s <:+ s := by
  fun_cases unsigned s with
  | case1 s => exact List.suffix_cons _ s
  | case2 s => exact List.suffix_cons _ s
  | case3 => exact List.suffix_refl s

theorem not_partsBreak_of_readable {ps : List Text} (h : ∀ p ∈ ps, Readable p) :
    ¬PartsBreak ps := by
  have ho : ∀ p ∈ ps, ¬Overlong p := fun p hp => (h p hp).not_overlong
  match ps, ho with
  | [], _ => exact id
  | [m], ho => exact ho m (by simp)
  | [m, a], ho =>
    rintro (hm | ⟨k, -, ha⟩)
    · exact ho m (by simp) hm
    · exact ho a (by simp) ha
  | [m, d, a], ho =>
    rintro (hm | ⟨k, -, hd | ⟨n, -, ha⟩⟩)
    · exact ho m (by simp) hm
    · exact ho d (by simp) hd
    · exact ho a (by simp) ha
  | _ :: _ :: _ :: _ :: _, _ => exact id

theorem not_enchantmentBreaks_of_readable {ps : List Text} (h : ∀ p ∈ ps, Readable p) :
    ¬EnchantmentBreaks ps := by
  match ps, h with
  | [], _ => exact id
  | [_], _ => exact id
  | [e, l], h =>
    rintro (he | ⟨k, -, hl⟩)
    · exact (h e (by simp)).not_overlong he
    · exact ((h l (by simp)).suffix (suffix_unsigned l)).not_overlong hl
  | _ :: _ :: _ :: _, _ => exact id

theorem not_breaksIn_of_readable {t : Text} (h : Readable t) : ¬BreaksIn t := by
  rintro (hb | ⟨i, -, pre, e, post, he, -, hb⟩)
  · have hc := h.stretch (prefix_cut ' ' t).isInfix
    exact not_partsBreak_of_readable (fun p hp => hc.piece hp) hb
  · have hm : e ∈ entries (Text.trim ((cut ' ' t).2.getD [])) := by
      rw [he]
      exact List.mem_append_right _ List.mem_cons_self
    obtain ⟨p, hp, rfl⟩ := List.mem_map.1 (List.mem_filter.1 hm).1
    have hr := ((h.suffix (suffix_cut ' ' t)).trim.piece hp).trim
    exact not_enchantmentBreaks_of_readable (fun q hq => hr.piece hq) hb

end Item

end Rewards
