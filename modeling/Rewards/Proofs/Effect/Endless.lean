import Rewards.Proofs.Effect

/-!
Effects that last for ever are written with their strength alone. A strength of three digits or more is
then taken for a number of seconds when it is read, and no other effect of the catalog is misread.
-/

namespace Rewards

open Text Catalog

namespace Duration

theorem ofTicks_eq_endless_iff {ticks : ℤ} :
    ofTicks ticks = endless ↔ ticks ≤ 0 ∨ ticks = endlessTicks := by
  unfold ofTicks
  split
  · rename_i h
    simp only [h, true_or]
  · rename_i h
    split
    · rename_i he
      simp only [he, or_true]
    · rename_i he
      simp only [h, he, or_self, reduceCtorEq]

end Duration

namespace Effect

variable {e : Effect}

theorem wellFormed_of_known (h : e.Known) (hn : ¬(e.duration = .endless ∧ 99 ≤ e.amplifier)) :
    e.WellFormed where
  kind := h.kind
  amplifier := h.amplifier
  endless he := by
    by_contra hlt
    exact hn ⟨he, by omega⟩

/-- The written strength of an effect that lasts for ever is read as seconds, if it has three digits or
more. -/
theorem ofBody_body_endless (h : e.Known) (hs : ∀ n ∈ e.integers, IsShort n)
    (he : e.duration = .endless) (hn : 99 ≤ e.amplifier) :
    ∃ (n : ℕ) (hpos : 0 < n), (n : ℤ) = e.amplifier + 1 ∧
      ofBody e.body = .ok ⟨e.kind, 0, .seconds n hpos⟩ := by
  have hw := words_body h hs
  have hk := effect?_lowerName h.kind
  obtain ⟨n, hamp, hint⟩ := exists_amplifier h
  have h0 : e.amplifier ≠ 0 := by omega
  have hlong : ¬looksLikeAmplifier (numeral (n + 1)) = true := by
    rw [looksLikeAmplifier_numeral]
    omega
  have hmem : e.amplifier + 1 ∈ e.integers := by
    simp only [integers, he, if_neg h0, List.mem_singleton]
  have hshort : IsShort (n + 1 : ℕ) := by
    have hamp' := hs _ hmem
    rw [hamp] at hamp'
    exact_mod_cast hamp'
  simp only [parts, he, if_neg h0, hint] at hw
  refine ⟨n + 1, n.succ_pos, by rw [hamp]; rfl, ?_⟩
  rw [ofBody_of_parts hk hw (by simp), ofParts, if_neg hlong, Duration.read_numeral n.succ_pos hshort]
  rfl

/-- An effect of the catalog, made with any strength and any number of ticks, is written if its numbers
are not too long. What is written reads back to it, unless it lasts for ever and its strength has
three digits or more: then the strength is read as seconds. -/
theorem reads_back_iff {kind : Key} (hk : kind ∈ effects) {amplifier : ℤ} (ha : 0 ≤ amplifier)
    (ticks : ℤ)
    (hs : ∀ n ∈ (⟨kind, amplifier, .ofTicks ticks⟩ : Effect).integers, IsShort n) :
    let e : Effect := ⟨kind, amplifier, .ofTicks ticks⟩
    let endless := ticks ≤ 0 ∨ ticks = Duration.endlessTicks
    ∃ t, e.canonical = .ok t ∧
      (read (some t) = .ok e ↔ ¬(endless ∧ 99 ≤ amplifier)) ∧
      (endless → 99 ≤ amplifier → ∃ (n : ℕ) (hpos : 0 < n), (n : ℤ) = amplifier + 1 ∧
        read (some t) = .ok ⟨kind, 0, .seconds n hpos⟩) := by
  intro e endless
  have h : e.Known := ⟨hk, ha⟩
  have hendless : e.duration = .endless ↔ endless := Duration.ofTicks_eq_endless_iff
  have hmisread (he : endless) (hn : 99 ≤ amplifier) := ofBody_body_endless h hs (hendless.2 he) hn
  refine ⟨_, (canonical_eq e).trans (if_pos hs), ?_, fun he hn => ?_⟩
  · rw [read_written h hs]
    constructor
    · rintro hread ⟨he, hn⟩
      obtain ⟨n, hpos, -, hbody⟩ := hmisread he hn
      have hsame : (⟨kind, 0, .seconds n hpos⟩ : Effect) = e := Except.ok.inj (hbody.symm.trans hread)
      have hlasts : e.duration = .seconds n hpos := by rw [← hsame]
      rw [hendless.2 he] at hlasts
      cases hlasts
    · intro hn
      exact ofBody_body (wellFormed_of_known h (by rwa [hendless])) hs
  · rw [read_written h hs]
    exact hmisread he hn

/-- Strength 100 without an end comes back as a hundred seconds of the least strength. -/
theorem endless_strength_hundred :
    let speed : Key := ⟨1, "SPEED"⟩
    let e : Effect := ⟨speed, 99, .ofTicks Duration.endlessTicks⟩
    speed ∈ effects ∧ (∀ n ∈ e.integers, IsShort n) ∧ e.canonical = .ok "eff:speed 100" ∧
      read (some "eff:speed 100") = .ok ⟨speed, 0, .seconds 100 (by decide)⟩ ∧
      read (some "eff:speed 100") ≠ .ok e := by
  intro speed e
  have hk : speed ∈ effects := by decide
  have hs : ∀ n ∈ e.integers, IsShort n := by decide
  have ha : (0 : ℤ) ≤ 99 := by decide
  obtain ⟨t, hcanonical, hiff, hmisread⟩ := reads_back_iff hk ha Duration.endlessTicks hs
  have hwritten : e.canonical = .ok "eff:speed 100" := by decide
  obtain rfl : t = "eff:speed 100" := Except.ok.inj (hcanonical.symm.trans hwritten)
  obtain ⟨n, hpos, hn, hread⟩ := hmisread (.inr rfl) (by decide)
  obtain rfl : n = 100 := by omega
  exact ⟨hk, hs, hwritten, hread, fun h => hiff.1 h ⟨.inr rfl, by decide⟩⟩

end Effect

end Rewards
