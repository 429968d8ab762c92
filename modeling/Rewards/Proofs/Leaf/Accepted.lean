import Rewards.Proofs.Closed
import Rewards.Proofs.Effect.Accepted
import Rewards.Proofs.Item.Accepted

/-!
Accepted tokens. What a token outside parentheses stands for is well-formed and is written with the
parentheses of the token.
-/

namespace Rewards

open Text Token

namespace Decimal

theorem isParen_of_isDigit {c : Char} (h : isDigit c = true) : isParen c = false := by
  have hd : ∀ c ∈ ['(', ')'], isDigit c = false := by decide
  rw [Bool.eq_false_iff]
  intro hp
  rw [hd c (by simpa [isParen] using hp)] at h
  cases h

theorem parens_of_digits {s : Text} (h : ∀ c ∈ s, isDigit c = true) : parens s = [] :=
  parens_eq_nil_iff.2 fun c hc => isParen_of_isDigit (h c hc)

theorem parens_sign (s : Text) : parens (sign s).2 = parens s := by
  rw [sign.eq_def]
  split
  · rw [parens_cons_of_not (by decide)]
  · rw [parens_cons_of_not (by decide)]
  · rfl

theorem parens_of_exponent? {s : Text} {e : ℤ} (h : exponent? s = some e) : parens s = [] := by
  rw [exponent?] at h
  simp only [Option.ite_none_right_eq_some, allDigits, Bool.and_eq_true, List.all_eq_true] at h
  rw [← parens_sign]
  exact parens_of_digits h.1.2

theorem parens_dropDigits (s : Text) : parens (s.dropWhile isDigit) = parens s := by
  have h : parens (s.takeWhile isDigit) = [] :=
    parens_of_digits fun c hc => List.mem_takeWhile_imp hc
  conv_rhs => rw [← List.takeWhile_append_dropWhile (p := isDigit) (l := s), parens_append, h,
    List.nil_append]

/-- Nothing, or an exponent, may stand after the digits. -/
def IsExponent (tail : Text) : Prop :=
  tail = [] ∨ ∃ c r e, tail = c :: r ∧ (c = 'e' ∨ c = 'E') ∧ exponent? r = some e

theorem IsExponent.parens {tail : Text} (h : IsExponent tail) : parens tail = [] := by
  obtain rfl | ⟨c, r, e, rfl, hc, he⟩ := h
  · rfl
  · have hp : isParen c = false := by obtain rfl | rfl := hc <;> decide
    rw [parens_cons_of_not hp, parens_of_exponent? he]

theorem parens_of_ofText? {s : Text} {p : Parts} (h : Parts.ofText? s = some p) : parens s = [] := by
  rw [← parens_dropDigits]
  simp only [Parts.ofText?] at h
  generalize s.dropWhile isDigit = rest at *
  obtain ⟨tail, hr, ht⟩ : ∃ tail, parens rest = parens tail ∧ IsExponent tail := by
    split at h
    on_goal 1 =>
      rename_i r
      have hr : parens ('.' :: r) = parens (r.dropWhile isDigit) := by
        rw [parens_cons_of_not (by decide), parens_dropDigits]
      refine ⟨r.dropWhile isDigit, hr, ?_⟩
    on_goal 2 => refine ⟨rest, rfl, ?_⟩
    all_goals
      split at h
      · cases h
      · split at h
        · rename_i ht
          exact .inl ht
        · rename_i c r ht
          obtain ⟨hc, he⟩ := Option.ite_none_right_eq_some.1 h
          obtain ⟨e, he, -⟩ := Option.map_eq_some_iff.1 he
          exact .inr ⟨c, r, e, ht, hc, he⟩
  rw [hr, ht.parens]

theorem parens_of_read? {s : Text} {x : Float} (h : read? s = some x) : parens s = [] := by
  rw [read?] at h
  obtain ⟨p, hp, -⟩ := Option.map_eq_some_iff.1 h
  rw [← parens_sign]
  exact parens_of_ofText? hp

end Decimal

theorem Currency.parens_of_ofBody {b : Text} {x : Float} (h : ofBody b = .ok x) :
    parens b = [] := by
  simp only [ofBody] at h
  split at h
  · cases h
  · split at h
    · cases h
    · rename_i hr
      rw [← parens_trim, Decimal.parens_of_read? hr]

namespace Leaf

theorem parens_of_body? {o : Opening} (ho : o ∈ [Currency.opening, Permission.opening,
    Effect.opening]) {t b : Text} (h : o.body? t = some b) : Token.parens b = Token.parens t := by
  obtain ⟨-, k, hk, rfl⟩ := Opening.opens_of_body? h
  rw [parens_append, hk.parens ho, List.nil_append]

/-- What a token stands for is well-formed and is written with the parentheses of the token. -/
theorem ofToken_cases {t : Text} {l : Leaf} (h : ofToken t = .ok l) :
    l.WellFormed ∧ l.parens = Token.parens t := by
  rw [ofToken] at h
  split at h
  · rename_i b hb
    obtain ⟨x, hx, rfl⟩ := Outcome.map_eq_ok_iff.1 h
    refine ⟨Currency.isFinite_of_ofBody hx, ?_⟩
    rw [← parens_of_body? (by simp) hb, Currency.parens_of_ofBody hx]
    rfl
  · split at h
    · rename_i b hb
      obtain ⟨node, hn, rfl⟩ := Outcome.map_eq_ok_iff.1 h
      rw [Permission.ofBody] at hn
      split at hn
      · cases hn
      · rename_i hne
        cases hn
        rw [List.isEmpty_iff] at hne
        have hbody := (Opening.isBody_iff.1 (Opening.opens_of_body? hb).1).2
        refine ⟨⟨hne, trimmed_trim b, fun hm => hbody (mem_of_mem_trim hm)⟩, ?_⟩
        rw [← parens_of_body? (by simp) hb]
        exact parens_trim b
    · split at h
      · rename_i b hb
        obtain ⟨e, he, rfl⟩ := Outcome.map_eq_ok_iff.1 h
        refine ⟨Effect.wellFormed_of_ofBody he, ?_⟩
        rw [← parens_of_body? (by simp) hb, Effect.parens_of_ofBody he]
        rfl
      · rw [Outcome.mapError_eq_ok_iff] at h
        obtain ⟨i, hi, rfl⟩ := Outcome.map_eq_ok_iff.1 h
        obtain ⟨hw, hp⟩ := Item.ofToken_cases hi
        exact ⟨hw, hp.symm⟩

end Leaf

end Rewards
