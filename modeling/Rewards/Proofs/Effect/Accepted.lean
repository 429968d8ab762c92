import Rewards.Proofs.Assoc
import Rewards.Proofs.Effect

/-!
Accepted effects are well-formed, and the bodies that stand for them have no parentheses.
-/

namespace Rewards

open Text Catalog Token

namespace Duration

theorem parens_of_isAsciiDigit {t : Text} (h : t.all isAsciiDigit = true) : parens t = [] :=
  parens_eq_nil_iff.2 fun c hc => isParen_of_isAsciiDigit (List.all_eq_true.1 h c hc)

theorem isParen_of_unitPairs? {ds s : Text} {ps : List (Text × Char)}
    (h : unitPairs? ds s = some ps) : parens s = [] := by
  have hd : ∀ c ∈ ['(', ')'], isDigit c = false ∧ isUnit c = false := by decide
  have hp : ∀ c, isDigit c = true ∨ isUnit c = true → isParen c = false := by
    intro c hc
    rw [Bool.eq_false_iff]
    intro hp
    obtain ⟨h1, h2⟩ := hd c (by simpa [isParen] using hp)
    rw [h1, h2] at hc
    simp at hc
  induction s generalizing ds ps with
  | nil => rfl
  | cons c s ih =>
    rw [unitPairs?] at h
    split at h
    · rename_i hc
      rw [parens_cons_of_not (hp c (.inl hc))]
      exact ih h
    · split at h
      · rename_i hc
        obtain ⟨qs, hq, -⟩ := Option.map_eq_some_iff.1 h
        rw [parens_cons_of_not (hp c (.inr hc.1))]
        exact ih hq
      · cases h

theorem parens_of_readSeconds {t : Text} {n : ℕ} (h : readSeconds t = .ok n) : parens t = [] := by
  rw [readSeconds] at h
  split at h
  · rename_i hd
    exact parens_of_isAsciiDigit hd
  · split at h
    · cases h
    · cases h
    · rename_i hu
      exact isParen_of_unitPairs? hu

/-- What is read as a length is one in seconds and has no parentheses. -/
theorem read_cases {t : Text} {d : Duration} (h : read (some t) = .ok d) :
    (∃ n hn, d = seconds n hn) ∧ parens t = [] := by
  simp only [read, Option.getD_some] at h
  split at h
  · cases h
  · obtain ⟨n, hn, h⟩ := Outcome.bind_eq_ok_iff.1 h
    refine ⟨?_, by rw [← parens_trim, parens_of_readSeconds hn]⟩
    split at h
    · rename_i h0
      exact ⟨n, h0, (Except.ok.inj h).symm⟩
    · cases h

end Duration

namespace Effect

/-- The parts after a name that stand for the strength and the length of an effect. -/
inductive Reads (e : Effect) : List Text → Prop
  | name (ha : e.amplifier = 0) (hd : e.duration = .endless) : Reads e []
  | strength {a : Text} {n : ℕ} (hl : looksLikeAmplifier a = true)
      (hr : readAmplifier (some a) = .ok n) (ha : e.amplifier = n)
      (hd : e.duration = .endless) : Reads e [a]
  | length {a : Text} (ha : e.amplifier = 0)
      (hd : Duration.read (some a) = .ok e.duration) : Reads e [a]
  | both {a l : Text} {n : ℕ} (hr : readAmplifier (some a) = .ok n) (ha : e.amplifier = n)
      (hd : Duration.read (some l) = .ok e.duration) : Reads e [a, l]

theorem reads_of_ofParts {kind : Key} {rest : List Text} {e : Effect} (hl : rest.length ≤ 2)
    (h : ofParts kind rest = .ok e) : e.kind = kind ∧ e.Reads rest := by
  rcases rest with _ | ⟨a, _ | ⟨l, _ | ⟨_, _⟩⟩⟩
  · cases h
    exact ⟨rfl, .name rfl rfl⟩
  · rw [ofParts] at h
    split at h
    · rename_i ha
      obtain ⟨n, hn, rfl⟩ := Outcome.map_eq_ok_iff.1 h
      exact ⟨rfl, .strength ha hn rfl rfl⟩
    · obtain ⟨d, hd, rfl⟩ := Outcome.map_eq_ok_iff.1 h
      exact ⟨rfl, .length rfl hd⟩
  · obtain ⟨n, hn, h⟩ := Outcome.bind_eq_ok_iff.1 h
    obtain ⟨d, hd, rfl⟩ := Outcome.map_eq_ok_iff.1 h
    exact ⟨rfl, .both hn rfl hd⟩
  · simp only [List.length_cons] at hl
    omega

/-- An accepted body is a name of the catalog and at most two parts. -/
theorem ofParts_of_ofBody {b : Text} {e : Effect} (h : ofBody b = .ok e) :
    ∃ name rest, words (trim b) = name :: rest ∧ rest.length ≤ 2 ∧
      effect? name = .ok (some e.kind) ∧ ofParts e.kind rest = .ok e := by
  cases hw : words (trim b) with
  | nil =>
    simp only [ofBody, hw] at h
    cases h
  | cons name rest =>
    refine ⟨name, rest, rfl, ?_⟩
    by_cases hl : rest.length ≤ 2
    · rw [ofBody_of_words hw hl] at h
      obtain ⟨k?, hk, h⟩ := Outcome.bind_eq_ok_iff.1 h
      rw [Outcome.mapError_eq_ok_iff] at hk
      cases k? with
      | none => cases h
      | some kind =>
        obtain ⟨rfl, -⟩ := reads_of_ofParts hl h
        exact ⟨hl, hk, h⟩
    · simp only [ofBody, hw, if_pos (Nat.not_le.1 hl)] at h
      cases h

theorem ofBody_cases {b : Text} {e : Effect} (h : ofBody b = .ok e) :
    ∃ name rest, words (trim b) = name :: rest ∧ effect? name = .ok (some e.kind) ∧
      e.Reads rest := by
  obtain ⟨name, rest, hw, hl, hk, h⟩ := ofParts_of_ofBody h
  exact ⟨name, rest, hw, hk, (reads_of_ofParts hl h).2⟩

/-- A strength is a roman numeral or has ASCII digits. -/
theorem readAmplifier_cases {a : Text} {n : ℕ} (h : readAmplifier (some a) = .ok n) :
    (upper (trim a), n) ∈ romans ∨
      trim a ≠ [] ∧ (trim a).all isAsciiDigit = true ∧ n = number (trim a) - 1 := by
  simp only [readAmplifier, Option.getD_some] at h
  split at h
  · cases h
  · rename_i hne
    rw [List.isEmpty_iff] at hne
    split at h
    · rename_i m hm
      cases h
      exact .inl (Assoc.mem_of_lookup hm)
    · split at h
      · rename_i hd
        refine .inr ⟨hne, hd, ?_⟩
        rw [natural] at h
        split at h <;> cases h
        rfl
      · cases h

theorem parens_of_readAmplifier {a : Text} {n : ℕ} (h : readAmplifier (some a) = .ok n) :
    parens a = [] := by
  obtain h | ⟨-, h, -⟩ := readAmplifier_cases h
  · refine parens_eq_nil_iff.2 fun c hc => ?_
    by_contra hp
    have hp : isParen c := by simpa using hp
    have hall : ∀ r ∈ romans, ∀ c ∈ r.1, isParen c = false := by decide
    have hup : ∀ c ∈ ['(', ')'], upperChar c = [c] := by decide +kernel
    have hm : c ∈ parens (trim a) := by
      rw [parens_trim]
      exact List.mem_filter.2 ⟨hc, hp⟩
    have hu : c ∈ upper (trim a) := by
      refine List.mem_flatMap.2 ⟨c, (List.mem_filter.1 hm).1, ?_⟩
      rw [hup c (by simpa [isParen] using hp)]
      exact List.mem_singleton_self c
    exact absurd (hall _ h c hu) (by simp [hp])
  · rw [← parens_trim]
    exact Duration.parens_of_isAsciiDigit h

/-- What looks like a strength is at most 99. -/
theorem amplifier_le {a : Text} {n : ℕ} (hl : looksLikeAmplifier a = true)
    (h : readAmplifier (some a) = .ok n) : n ≤ 98 := by
  obtain h | ⟨hne, hd, rfl⟩ := readAmplifier_cases h
  · have hall : ∀ r ∈ romans, r.2 ≤ 98 := by decide
    exact hall _ h
  · rw [looksLikeAmplifier, Bool.or_eq_true, Bool.and_eq_true] at hl
    obtain ⟨-, hlen⟩ | hroman := hl
    · have hlen : (trim a).length ≤ 2 := by
        have := trim_length_le a
        simp only [Bool.or_eq_true, beq_iff_eq] at hlen
        omega
      have hlt := number_lt (trim a)
      have : 10 ^ (trim a).length ≤ 10 ^ 2 := Nat.pow_le_pow_right (by decide) hlen
      omega
    · obtain ⟨m, hm⟩ := Option.isSome_iff_exists.1 hroman
      have hall : ∀ r ∈ romans, ∀ c ∈ r.1, isAsciiDigit c = false := by decide
      obtain ⟨c, s, hs⟩ := List.exists_cons_of_ne_nil hne
      have hc := List.all_eq_true.1 hd c (by rw [hs]; exact List.mem_cons_self)
      have hi : romanLetter c = c := by
        rw [romanLetter, if_neg, if_neg]
        · rintro rfl
          exact absurd hc (by decide)
        · rintro (rfl | rfl | rfl) <;> exact absurd hc (by decide)
      have hmem : c ∈ a.map romanLetter := by
        refine List.mem_map.2 ⟨c, mem_of_mem_trim ?_, hi⟩
        rw [hs]
        exact List.mem_cons_self
      exact absurd (hall _ (Assoc.mem_of_lookup hm) c hmem) (by simp [hc])

theorem wellFormed_of_ofBody {b : Text} {e : Effect} (h : ofBody b = .ok e) : e.WellFormed := by
  obtain ⟨name, rest, -, hk, h⟩ := ofBody_cases h
  have hkind := find?_mem hk
  cases h with
  | name ha hd => exact ⟨hkind, by omega, by omega⟩
  | strength hl hr ha hd =>
    have := amplifier_le hl hr
    exact ⟨hkind, by omega, by omega⟩
  | length ha hd => exact ⟨hkind, by omega, by omega⟩
  | both hr ha hd =>
    obtain ⟨⟨n, hn, he⟩, -⟩ := Duration.read_cases hd
    refine ⟨hkind, by omega, fun hend => ?_⟩
    rw [hend] at he
    cases he

theorem parens_of_ofBody {b : Text} {e : Effect} (h : ofBody b = .ok e) : parens b = [] := by
  obtain ⟨name, rest, hw, hk, h⟩ := ofBody_cases h
  have hn := parens_of_find? (fun k hk => (effects_named k hk).1) hk
  rw [← parens_trim, ← parens_words, hw, List.map_cons, List.flatten_cons, hn, List.nil_append]
  cases h with
  | name => rfl
  | strength _ hr => simp [parens_of_readAmplifier hr]
  | length _ hd => simp [(Duration.read_cases hd).2]
  | both hr _ hd => simp [parens_of_readAmplifier hr, (Duration.read_cases hd).2]

end Effect

end Rewards
