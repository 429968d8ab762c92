import Rewards.Proofs.Effect.Accepted
import Rewards.Proofs.Fault

/-!
Where reading an effect breaks: at a numeral that is too long, and at the long s, which is taken
for a unit but has no length.
-/

namespace Rewards

open Text Catalog

namespace Duration

/-- A pair of a number and a unit of which one cannot be read. -/
def PairBreaks (p : Text × Char) : Prop := maxDigits < p.1.length ∨ p.2 = 'ſ'

/-- A numeral that is too long, or pairs of which one cannot be read. -/
def BreaksIn (t : Text) : Prop :=
  Overlong t ∨ ∃ ps, unitPairs? [] t = some ps ∧ ∃ p ∈ ps, PairBreaks p

theorem unitSeconds?_eq_none_iff {u : Char} (h : isUnit u = true) :
    unitSeconds? u = none ↔ u = 'ſ' := by
  constructor
  · intro hn
    rw [isUnit, hn] at h
    simpa using h
  · rintro rfl
    decide

theorem isUnit_of_mem {ds s : Text} {ps : List (Text × Char)} (h : unitPairs? ds s = some ps) :
    ∀ p ∈ ps, isUnit p.2 = true := by
  induction s generalizing ds ps with
  | nil =>
    rw [unitPairs?] at h
    split at h <;> cases h
    simp
  | cons c s ih =>
    rw [unitPairs?] at h
    split at h
    · exact ih h
    · split at h
      · rename_i hc
        obtain ⟨qs, hq, rfl⟩ := Option.map_eq_some_iff.1 h
        exact List.forall_mem_cons.2 ⟨hc.1, ih hq⟩
      · cases h

theorem pairSeconds_cases {p : Text × Char} (h : isUnit p.2 = true) :
    (∃ n, pairSeconds p = .ok n ∧ ¬PairBreaks p) ∨
      ∃ f, pairSeconds p = .error f ∧ (Failure.broken f).OfText ∧ PairBreaks p := by
  rw [pairSeconds, PairBreaks, natural, ← unitSeconds?_eq_none_iff h]
  split
  · rename_i hl
    exact .inr ⟨_, rfl, hl, .inl hl⟩
  · rename_i hl
    cases hu : unitSeconds? p.2 with
    | some k => exact .inl ⟨_, rfl, by simp [hl]⟩
    | none => exact .inr ⟨_, rfl, (unitSeconds?_eq_none_iff h).1 hu, .inr rfl⟩

theorem breaksIff_pairs {ps : List (Text × Char)} (h : ∀ p ∈ ps, isUnit p.2 = true) :
    BreaksIff ((ps.mapM pairSeconds).mapError .broken) (∃ p ∈ ps, PairBreaks p) := by
  rw [Outcome.mapM_eq_each, Outcome.each_mapError]
  induction ps with
  | nil => exact (BreaksIff.ok _).congr (by simp)
  | cons p ps ih =>
    obtain ⟨hp, hps⟩ := List.forall_mem_cons.1 h
    rw [Outcome.each]
    obtain ⟨n, hn, hb⟩ | ⟨f, hf, ht, hb⟩ := pairSeconds_cases hp
    · rw [hn]
      refine ((ih hps).map (n :: ·)).congr ?_
      simp [hb]
    · rw [hf]
      exact (BreaksIff.broken ht).congr (iff_of_true trivial ⟨p, List.mem_cons_self, hb⟩)

theorem unitPairs?_of_digits {t : Text} (h : t.all isAsciiDigit = true) {ps : List (Text × Char)}
    (hp : unitPairs? [] t = some ps) : ps = [] := by
  have hd : ∀ c ∈ t, isDigit c = true := fun c hc =>
    isDigit_of_isAsciiDigit (List.all_eq_true.1 h c hc)
  have := unitPairs?_digits hd [] []
  rw [List.append_nil, hp, unitPairs?] at this
  split at this <;> cases this
  rfl

theorem breaksIff_readSeconds (t : Text) : BreaksIff (readSeconds t) (BreaksIn t) := by
  rw [readSeconds]
  split
  · rename_i hd
    refine (breaksIff_natural t).congr ⟨fun h => .inl ⟨hd, h⟩, ?_⟩
    rintro (⟨-, h⟩ | ⟨ps, hps, p, hp, -⟩)
    · exact h
    · rw [unitPairs?_of_digits hd hps] at hp
      cases hp
  · rename_i hd
    have ho : ¬Overlong t := fun h => hd h.1
    rw [BreaksIn, or_iff_right ho]
    split
    · rename_i hps
      exact (BreaksIff.refuse _ _).congr (by simp [hps])
    · rename_i hps
      exact (BreaksIff.refuse _ _).congr (by simp [hps])
    · rename_i ps _ hps
      refine ((breaksIff_pairs (isUnit_of_mem hps)).bind fun ns _ => BreaksIff.ok _).congr ?_
      simp [hps]

theorem not_breaksIn_nil : ¬BreaksIn [] := by
  rintro (⟨-, h⟩ | ⟨ps, hps, p, hp, -⟩)
  · simp at h
  · cases hps
    cases hp

theorem breaksIff_read (t : Text) : BreaksIff (read (some t)) (BreaksIn (trim t)) := by
  simp only [read, Option.getD_some]
  split
  · rename_i h
    rw [List.isEmpty_iff.1 h]
    exact (BreaksIff.lack _).congr (iff_of_false id not_breaksIn_nil)
  · refine ((breaksIff_readSeconds (trim t)).bind (q := fun _ => False) fun n _ => ?_).congr
      (by simp)
    split
    · exact BreaksIff.ok _
    · exact BreaksIff.value _

end Duration

namespace Effect

theorem breaksIff_readAmplifier (t : Text) :
    BreaksIff (readAmplifier (some t)) (Overlong (trim t)) := by
  simp only [readAmplifier, Option.getD_some]
  split
  · rename_i h
    rw [List.isEmpty_iff.1 h]
    exact (BreaksIff.lack _).congr (iff_of_false id fun h => absurd h.2 (by simp))
  · rename_i hne
    rw [List.isEmpty_iff] at hne
    split
    · rename_i n hn
      refine (BreaksIff.ok n).congr (iff_of_false id fun h => ?_)
      rw [lookup_upper_digits hne (List.all_eq_true.1 h.1)] at hn
      cases hn
    · split
      · rename_i hd
        exact ((breaksIff_natural (trim t)).map (· - 1)).congr (and_iff_right hd).symm
      · rename_i hd
        exact (BreaksIff.refuse _ _).congr (iff_of_false id fun h => hd h.1)

theorem length_le_of_looksLikeAmplifier {t : Text} (h : looksLikeAmplifier t = true) :
    t.length ≤ 3 := by
  rw [looksLikeAmplifier, Bool.or_eq_true, Bool.and_eq_true] at h
  obtain ⟨-, h⟩ | h := h
  · simp only [Bool.or_eq_true, beq_iff_eq] at h
    omega
  · obtain ⟨n, hn⟩ := Option.isSome_iff_exists.1 h
    have hall : ∀ r ∈ romans, r.1.length ≤ 3 := by decide
    have := hall _ (Assoc.mem_of_lookup hn)
    rwa [List.length_map] at this

/-- When reading the parts after the name of an effect breaks. What looks like a strength is never
too long. -/
def PartsBreak : List Text → Prop
  | [a] => looksLikeAmplifier a = false ∧ Duration.BreaksIn a
  | [a, l] => Overlong a ∨ ∃ n, readAmplifier (some a) = .ok n ∧ Duration.BreaksIn l
  | _ => False

/-- At most two parts follow the name, which is too long a number, or that of an effect whose parts
break. -/
def BreaksIn (b : Text) : Prop :=
  ∃ name rest, words (trim b) = name :: rest ∧ rest.length ≤ 2 ∧
    (Overlong name ∨ ∃ k, effect? name = .ok (some k) ∧ PartsBreak rest)

theorem breaksIff_ofParts (kind : Key) {rest : List Text} (hl : rest.length ≤ 2)
    (ht : ∀ w ∈ rest, trim w = w) : BreaksIff (ofParts kind rest) (PartsBreak rest) := by
  match rest, hl with
  | [], _ => exact BreaksIff.ok _
  | [a], _ =>
    have ha := ht a List.mem_cons_self
    rw [ofParts, PartsBreak]
    split
    · rename_i hs
      refine ((breaksIff_readAmplifier a).map _).congr (iff_of_false ?_ (by simp [hs]))
      rintro ⟨-, h⟩
      have := length_le_of_looksLikeAmplifier hs
      rw [ha, maxDigits] at h
      omega
    · rename_i hs
      rw [Bool.not_eq_true] at hs
      rw [and_iff_right hs]
      have := (Duration.breaksIff_read a).map fun d => (⟨kind, 0, d⟩ : Effect)
      rwa [ha] at this
  | [a, l], _ =>
    have ha := ht a List.mem_cons_self
    have hl := ht l (List.mem_cons_of_mem _ List.mem_cons_self)
    have := (breaksIff_readAmplifier a).bind fun n _ =>
      (Duration.breaksIff_read l).map fun d => (⟨kind, n, d⟩ : Effect)
    rwa [ha, hl] at this

theorem breaksIff_ofBody (b : Text) : BreaksIff (ofBody b) (BreaksIn b) := by
  cases hw : words (trim b) with
  | nil =>
    simp only [ofBody, hw]
    exact (BreaksIff.lack _).congr (by simp [BreaksIn, hw])
  | cons name rest =>
    have hb : BreaksIn b ↔ rest.length ≤ 2 ∧
        (Overlong name ∨ ∃ k, effect? name = .ok (some k) ∧ PartsBreak rest) := by
      simp [BreaksIn, hw]
    by_cases hl : rest.length ≤ 2
    · have ht : ∀ w ∈ rest, trim w = w := fun w h =>
        trim_of_mem_words (s := trim b) (by rw [hw]; exact List.mem_cons_of_mem _ h)
      rw [ofBody_of_words hw hl]
      refine (breaksIff_find?_bind (BreaksIff.refuse _ _) fun k => ?_).congr
        (hb.trans (and_iff_right hl)).symm
      exact breaksIff_ofParts k hl ht
    · simp only [ofBody, hw, if_pos (Nat.not_le.1 hl)]
      exact (BreaksIff.refuse _ _).congr (by simp [hb, hl])

end Effect

end Rewards
