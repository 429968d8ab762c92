import Rewards.Currency
import Rewards.Proofs.Decimal.Notation
import Rewards.Proofs.Text.Trimming
import Rewards.Proofs.Token.Nesting

/-!
Amounts of money keep their value. The canonical text of a finite amount reads back to an equal
amount, and equal amounts have one canonical text.
-/

namespace Rewards.Currency

open Text Decimal Binary

theorem isBlank_of_isNumberChar {c : Char} (h : isNumberChar c) : isBlank c = false := by
  simp only [isNumberChar, Bool.or_eq_true, beq_iff_eq] at h
  obtain (((h | rfl) | rfl) | rfl) | rfl := h
  · exact isBlank_of_isAsciiDigit h
  all_goals decide

theorem isParen_of_isNumberChar {c : Char} (h : isNumberChar c) : Token.isParen c = false := by
  simp only [isNumberChar, Bool.or_eq_true, beq_iff_eq] at h
  obtain (((h | rfl) | rfl) | rfl) | rfl := h
  · exact Token.isParen_of_isAsciiDigit h
  all_goals decide

/-- A body of number characters is read as it stands. -/
theorem ofBody_eq {b : Text} {y : Float} (hb : ∀ c ∈ b, isNumberChar c) (hr : read? b = some y)
    (hy : (ofFloat y).isFinite) : ofBody b = .ok y := by
  have ht : trim b = b :=
    trim_of_trimmed (trimmed_of_forall fun c hc => isBlank_of_isNumberChar (hb c hc))
  have hne : b.isEmpty = false := by
    cases b with
    | nil => cases hr
    | cons c b => rfl
  simp only [ofBody, ht, hne, hr, hy, Bool.false_eq_true, if_false, if_true]

/-- The canonical text of a finite amount is `$` and a body that reads back to an equal amount. -/
theorem ofBody_canonical {x : Float} (hx : (ofFloat x).isFinite) :
    ∃ b y, canonical x = .ok ('$' :: b) ∧ (∀ c ∈ b, isNumberChar c) ∧ ofBody b = .ok y ∧
      (y == x) = true := by
  cases hn : integer? x with
  | some n =>
    obtain ⟨hl, y, hr, hy, he⟩ := read?_integer hn
    have hc : canonical x = .ok ('$' :: integer n) := by
      have hw : written n = .ok (integer n) := if_neg (by simp only [maxDigits]; omega)
      simp only [integer?] at hn
      cases hf : ofFloat x <;> simp_all [canonical, isFinite]
    exact ⟨integer n, y, hc, isNumberChar_of_mem_integer,
      ofBody_eq isNumberChar_of_mem_integer hr hy, he⟩
  | none =>
    obtain ⟨y, hr, hy⟩ := read?_write hx
    have hc : canonical x = .ok ('$' :: write x) := by
      simp only [integer?] at hn
      cases hf : ofFloat x <;> simp_all [canonical, isFinite]
    refine ⟨write x, y, hc, isNumberChar_of_mem_write hx,
      ofBody_eq (isNumberChar_of_mem_write hx) hr (by rw [hy, hx]), ?_⟩
    cases hf : ofFloat x with
    | finite s m q => exact beq_of_ofFloat (hy.trans hf) hf (.inl rfl)
    | notANumber => simp [hf, isFinite] at hx
    | infinite s => simp [hf, isFinite] at hx

theorem isFinite_of_ofBody {b : Text} {x : Float} (h : ofBody b = .ok x) : (ofFloat x).isFinite := by
  simp only [ofBody] at h
  split at h
  · cases h
  · split at h
    · cases h
    · split at h
      · cases h
        assumption
      · cases h

theorem canonical_congr {x y : Float} (h : ofFloat x = ofFloat y) : canonical x = canonical y := by
  simp only [canonical, write, h]

theorem canonical_zero {x : Float} {s : Bool} {q : ℤ} (h : ofFloat x = finite s 0 q) :
    canonical x = .ok ['$', '0'] := by
  have hz : toInt? (finite s 0 q) = some 0 := by
    cases q <;> cases s <;> simp [toInt?, wholePart?]
  simp only [canonical, h, hz]
  rfl

/-- Equal amounts have one canonical text. -/
theorem canonical_eq_of_beq {x y : Float} (hx : (ofFloat x).isFinite) (hy : (ofFloat y).isFinite)
    (h : (x == y) = true) : canonical x = canonical y := by
  cases hfx : ofFloat x <;> cases hfy : ofFloat y <;> simp_all [isFinite]
  obtain ⟨rfl, rfl, hs | rfl⟩ := ofFloat_of_beq hfx hfy h
  · exact canonical_congr (by rw [hfx, hfy, hs])
  · rw [canonical_zero hfx, canonical_zero hfy]

end Rewards.Currency
