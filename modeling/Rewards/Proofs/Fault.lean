import Rewards.Catalog.Key
import Rewards.Proofs.Outcome

/-!
Faults of readings. A reading breaks if a fault gets out of it; one that is composed of others
breaks where the first of them that has no value breaks.
-/

namespace Rewards

variable {α β : Type}

/-- A fault gets out of the reading. -/
def Breaks (x : Except Failure α) : Prop := ∃ f, x = .error (.broken f)

instance decidableBreaks : (x : Except Failure α) → Decidable (Breaks x)
  | .ok _ => isFalse (by rintro ⟨_, h⟩; cases h)
  | .error (.refused _) => isFalse (by rintro ⟨_, h⟩; cases h)
  | .error (.broken f) => isTrue ⟨f, rfl⟩

/-- The failures of texts: their flaws, the fault of a numeral that is too long, and that of the
long s as a unit. -/
def Failure.OfText : Failure → Prop
  | .refused (.kind _) => False
  | .refused _ => True
  | .broken (.longNumeral n) => maxDigits < n
  | .broken (.unknownUnit c) => c = 'ſ'
  | .broken _ => False

/-- The first element of the list that `f` gives no value for is of the kind `q`. -/
def FirstUnread (f : α → Except Failure β) (q : α → Prop) (as : List α) : Prop :=
  ∃ pre a post, as = pre ++ a :: post ∧ (∀ b ∈ pre, ∃ c, f b = .ok c) ∧ q a

/-- Only failures of texts get out of the reading, and faults exactly on a condition. -/
structure BreaksIff (x : Except Failure α) (p : Prop) : Prop where
  ofText : ∀ e, x = .error e → e.OfText
  iff : Breaks x ↔ p

namespace BreaksIff

variable {x : Except Failure α} {p q : Prop}

theorem congr (h : BreaksIff x p) (hpq : p ↔ q) : BreaksIff x q := ⟨h.ofText, h.iff.trans hpq⟩

theorem ok (a : α) : BreaksIff (Except.ok a : Except Failure α) False where
  ofText e h := by cases h
  iff := iff_of_false (fun ⟨f, h⟩ => by cases h) id

theorem refused {r : Refusal} (h : (Failure.refused r).OfText) :
    BreaksIff (Except.error (.refused r) : Except Failure α) False where
  ofText e he := by
    cases he
    exact h
  iff := iff_of_false (fun ⟨f, hf⟩ => by cases hf) id

theorem lack (l : Lack) :
    BreaksIff (Except.error (.refused (.lack l)) : Except Failure α) False :=
  refused trivial

theorem value (f : ValueFlaw) :
    BreaksIff (Except.error (.refused (.value f)) : Except Failure α) False :=
  refused trivial

theorem refuse (part : Part) (t : Text) : BreaksIff (refuse part t : Except Failure α) False :=
  value _

theorem broken {f : Fault} (h : (Failure.broken f).OfText) :
    BreaksIff (Except.error (.broken f) : Except Failure α) True where
  ofText e he := by
    cases he
    exact h
  iff := iff_of_true ⟨f, rfl⟩ trivial

theorem bind {f : α → Except Failure β} {q : α → Prop} (hx : BreaksIff x p)
    (hf : ∀ a, x = .ok a → BreaksIff (f a) (q a)) :
    BreaksIff (x >>= f) (p ∨ ∃ a, x = .ok a ∧ q a) := by
  cases x with
  | error e =>
    refine ⟨fun e' h => ?_, ?_⟩
    · cases h
      exact hx.ofText e rfl
    · have : Breaks (Except.error e >>= f) ↔ Breaks (Except.error e : Except Failure α) := by
        simp [Breaks, Bind.bind, Except.bind]
      rw [this, hx.iff]
      simp
  | ok a =>
    have hp : ¬p := fun h => absurd (hx.iff.2 h) fun ⟨f, hf⟩ => by cases hf
    refine ⟨fun e' h => (hf a rfl).ofText e' h, ?_⟩
    rw [or_iff_right hp]
    exact (hf a rfl).iff.trans (by simp)

theorem bind_of_not {f : α → Except Failure β} (hx : BreaksIff x p)
    (hf : ∀ a, BreaksIff (f a) False) : BreaksIff (x >>= f) p :=
  (hx.bind fun a _ => hf a).congr (by simp)

theorem map (h : BreaksIff x p) (f : α → β) : BreaksIff (x.map f) p :=
  h.bind_of_not fun a => ok (f a)

/-- One after the other, elements break where the first that has no value breaks. -/
theorem each {f : α → Except Failure β} {q : α → Prop} {as : List α}
    (h : ∀ a ∈ as, BreaksIff (f a) (q a)) : BreaksIff (Outcome.each f as) (FirstUnread f q as) := by
  induction as with
  | nil => exact (ok _).congr (by simp [FirstUnread])
  | cons a as ih =>
    obtain ⟨ha, has⟩ := List.forall_mem_cons.1 h
    refine (ha.bind fun b _ => (ih has).map (b :: ·)).congr ⟨?_, ?_⟩
    · rintro (hq | ⟨b, hb, pre, c, post, rfl, hpre, hq⟩)
      · exact ⟨[], a, as, rfl, by simp, hq⟩
      · exact ⟨a :: pre, c, post, rfl, List.forall_mem_cons.2 ⟨⟨b, hb⟩, hpre⟩, hq⟩
    · rintro ⟨pre, c, post, he, hpre, hq⟩
      cases pre with
      | nil =>
        cases he
        exact .inl hq
      | cons d pre =>
        cases he
        obtain ⟨⟨b, hb⟩, hpre⟩ := List.forall_mem_cons.1 hpre
        exact .inr ⟨b, hb, pre, c, post, rfl, hpre, hq⟩

end BreaksIff

namespace Text

/-- A numeral of ASCII digits that is too long to be read. -/
def Overlong (t : Text) : Prop := t.all isAsciiDigit = true ∧ maxDigits < t.length

theorem breaksIff_natural (t : Text) :
    BreaksIff ((natural t).mapError .broken) (maxDigits < t.length) := by
  rw [natural]
  split
  · rename_i h
    exact (BreaksIff.broken (f := .longNumeral t.length) h).congr (iff_of_true trivial h)
  · rename_i h
    exact (BreaksIff.ok _).congr (iff_of_false id h)

end Text

namespace Catalog

open Text

theorem overlong_iff {t : Text} : Overlong t ↔ isNumeral t = true ∧ maxDigits < t.length := by
  rw [Overlong, isNumeral, Bool.and_eq_true, Bool.not_eq_true', List.isEmpty_eq_false_iff,
    and_assoc]
  refine ⟨fun h => ⟨?_, h⟩, And.right⟩
  rintro rfl
  exact absurd h.2 (Nat.not_lt_zero _)

theorem breaksIff_ite_isNumeral {α : Type} {x y : Except Failure α} {t : Text}
    (hx : BreaksIff x (maxDigits < t.length)) (hy : BreaksIff y False) :
    BreaksIff (if isNumeral t then x else y) (Overlong t) := by
  rw [overlong_iff]
  split
  · rename_i h
    exact hx.congr (and_iff_right h).symm
  · rename_i h
    exact hy.congr (iff_of_false id fun ho => h ho.1)

theorem breaksIff_find? (table : List Key) (t : Text) :
    BreaksIff ((find? table t).mapError .broken) (Overlong t) := by
  rw [find?, apply_ite (Except.mapError Failure.broken), Outcome.mapError_map]
  exact breaksIff_ite_isNumeral ((breaksIff_natural t).map _) (BreaksIff.ok _)

theorem breaksIff_find?_bind {α : Type} {table : List Key} {t : Text}
    {f : Option Key → Except Failure α} {q : Key → Prop} (hn : BreaksIff (f none) False)
    (hs : ∀ k, BreaksIff (f (some k)) (q k)) :
    BreaksIff ((find? table t).mapError .broken >>= f)
      (Overlong t ∨ ∃ k, find? table t = .ok (some k) ∧ q k) := by
  refine ((breaksIff_find? table t).bind (q := fun k? => ∃ k, k? = some k ∧ q k)
    fun k? _ => ?_).congr (or_congr_right ⟨?_, ?_⟩)
  · cases k? with
    | none => exact hn.congr (by simp)
    | some k => exact (hs k).congr (by simp)
  · rintro ⟨_, hk, k, rfl, h⟩
    exact ⟨k, Outcome.mapError_eq_ok_iff.1 hk, h⟩
  · rintro ⟨k, hk, h⟩
    exact ⟨_, Outcome.mapError_eq_ok_iff.2 hk, k, rfl, h⟩

end Catalog

end Rewards
