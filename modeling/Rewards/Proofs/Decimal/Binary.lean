import Mathlib
import Rewards.Decimal.Binary

/-!
Floats of the logical model as signs, significands and exponents: packing and unpacking, negation,
equality and order.
-/

namespace Rewards.Decimal

open Float.Model Float.Model.UnpackedFloat

namespace Binary

def ofUnpacked : UnpackedFloat → Binary
  | .notANumber => notANumber
  | .infinity s => infinite (s == .negative)
  | .zero s => finite (s == .negative) 0 (-1074)
  | .finite s m q _ => finite (s == .negative) m q

variable (b : BitVec Format.binary64.numBits)

theorem toNat_mantissa : (unpackMantissa b).toNat = b.toNat % 2 ^ 52 := by
  simp [unpackMantissa]

theorem toNat_exponent : (unpackExponent b).toNat = b.toNat / 2 ^ 52 % 2 ^ 11 := by
  simp [unpackExponent, Nat.shiftRight_eq_div_pow]

theorem toNat_sign : (unpackSign b).toNat = b.toNat / 2 ^ 63 := by
  have h : b.toNat < 2 ^ 64 := b.isLt
  simp only [unpackSign, BitVec.toNat_cast, BitVec.extractLsb_toNat, Nat.shiftRight_eq_div_pow]
  omega

theorem sign_negative : (Sign.ofBitVec (unpackSign b) == .negative) = (b.toNat / 2 ^ 63 == 1) := by
  have h := toNat_sign b
  have hb : b.toNat < 2 ^ 64 := b.isLt
  unfold Sign.ofBitVec
  by_cases hz : unpackSign b = 0#1
  · rw [hz] at h
    rw [if_pos hz, ← h]
    rfl
  · have h0 : (unpackSign b).toNat ≠ 0 := fun e => hz (BitVec.eq_of_toNat_eq e)
    have h1 : b.toNat / 2 ^ 63 = 1 := by omega
    rw [if_neg hz, h1]
    rfl

/-- A float stands for what the logical model unpacks it to. -/
theorem ofFloat_eq (x : Float) : ofFloat x = ofUnpacked x.toModel.unpack := by
  have hb : x.toBits.toNat = x.toModel.toBits.toBitVec.toNat := rfl
  simp only [ofFloat, hb, Float.Model.unpack, UnpackedFloat.unpack]
  generalize x.toModel.toBits.toBitVec = b
  have hm := toNat_mantissa b
  have he := toNat_exponent b
  have h0 : @unpackExponent Format.binary64 b = -1#_ ↔ b.toNat / 2 ^ 52 % 2 ^ 11 = 2047 := by
    rw [← he]
    exact ⟨fun h => by rw [h]; rfl, fun h => BitVec.eq_of_toNat_eq h⟩
  have h1 : @unpackExponent Format.binary64 b = 0#_ ↔ b.toNat / 2 ^ 52 % 2 ^ 11 = 0 := by
    rw [← he]
    exact ⟨fun h => by rw [h]; rfl, fun h => BitVec.eq_of_toNat_eq h⟩
  have h2 : @unpackMantissa Format.binary64 b = 0#_ ↔ b.toNat % 2 ^ 52 = 0 := by
    rw [← hm]
    exact ⟨fun h => by rw [h]; rfl, fun h => BitVec.eq_of_toNat_eq h⟩
  have hs := sign_negative b
  have hw : (1#1 ++ @unpackMantissa Format.binary64 b).toNat = 2 ^ 52 + b.toNat % 2 ^ 52 := by
    have hlt : (@unpackMantissa Format.binary64 b).toNat < 2 ^ 52 := BitVec.isLt _
    rw [BitVec.toNat_append, ← Nat.shiftLeft_add_eq_or_of_lt hlt, hm]
    rfl
  have hbias : (Format.binary64.exponentBias : Int) + (52 : Nat) = 1075 := by decide
  simp only [beq_iff_eq, h0, h1, h2]
  generalize b.toNat / 2 ^ 52 % 2 ^ 11 = e at *
  generalize b.toNat % 2 ^ 52 = f at *
  by_cases e0 : e = 2047
  · by_cases f0 : f = 0
    · simp only [if_pos e0, if_pos f0, ofUnpacked, hs]
    · simp only [if_pos e0, if_neg f0, ofUnpacked]
  · by_cases e1 : e = 0
    · subst e1
      by_cases f0 : f = 0
      · subst f0
        simp only [if_neg e0, if_pos, dif_pos, ofUnpacked, hs]
      · simp only [if_neg e0, if_pos, dif_neg f0, ofUnpacked, hs, hm, he, hbias]
        rfl
    · simp only [if_neg e0, if_neg e1, ofUnpacked, hs, hw, he, hbias]

/-- The significands and exponents that a float can have. -/
def Canonical (m : Nat) (q : Int) : Prop :=
  m < 2 ^ 52 ∧ q = -1074 ∨ 2 ^ 52 ≤ m ∧ m < 2 ^ 53 ∧ -1074 ≤ q ∧ q ≤ 971

theorem canonical_of_ofFloat {x : Float} {s : Bool} {m : Nat} {q : Int}
    (h : ofFloat x = finite s m q) : Canonical m q := by
  simp only [ofFloat, beq_iff_eq] at h
  split at h
  · split at h <;> cases h
  · split at h
    · simp only [finite.injEq] at h
      exact .inl ⟨by omega, h.2.2.symm⟩
    · simp only [finite.injEq] at h
      exact .inr (by omega)

theorem toNat_pack (s : Sign) (e : BitVec 11) (f : BitVec 52) :
    (packComponents Format.binary64 s e f).toNat =
      s.toBitVec.toNat * 2 ^ 63 + e.toNat * 2 ^ 52 + f.toNat := by
  have he := e.isLt
  have hf := f.isLt
  have hse : (s.toBitVec ++ e).toNat = s.toBitVec.toNat * 2 ^ 11 + e.toNat := by
    rw [BitVec.toNat_append, ← Nat.shiftLeft_add_eq_or_of_lt he, Nat.shiftLeft_eq]
  change ((s.toBitVec ++ e) ++ f).toNat = _
  rw [BitVec.toNat_append, ← Nat.shiftLeft_add_eq_or_of_lt hf, Nat.shiftLeft_eq, hse]
  ring

/-- The parts of a float that is packed from a sign, an exponent and a fraction. -/
theorem ofFloat_components (x : Float) (s : Sign) (e : BitVec 11) (f : BitVec 52)
    (hx : x.toModel.toBits.toBitVec = packComponents Format.binary64 s e f)
    (he : e.toNat < 2047) :
    ofFloat x = if e.toNat = 0 then finite (s == .negative) f.toNat (-1074)
      else finite (s == .negative) (2 ^ 52 + f.toNat) (e.toNat - 1075) := by
  have hb : x.toBits.toNat = (packComponents Format.binary64 s e f).toNat := by
    rw [← hx]; rfl
  have hf := f.isLt
  have hs : s.toBitVec.toNat = if s == .negative then 1 else 0 := by cases s <;> rfl
  have hs2 : s.toBitVec.toNat < 2 := s.toBitVec.isLt
  rw [toNat_pack] at hb
  have h63 : x.toBits.toNat / 2 ^ 63 = s.toBitVec.toNat := by omega
  have h52 : x.toBits.toNat / 2 ^ 52 % 2 ^ 11 = e.toNat := by omega
  have h0 : x.toBits.toNat % 2 ^ 52 = f.toNat := by omega
  have hn : (s.toBitVec.toNat == 1) = (s == .negative) := by cases s <;> rfl
  simp only [ofFloat, h63, h52, h0, hn, beq_iff_eq]
  rw [if_neg (by omega)]

theorem ofFloat_pack {s : Sign} {m : Nat} {q : Int} (hm : 0 < m) (h : Canonical m q) :
    ofFloat (.ofModel (Float.Model.pack (.finite s m q hm))) = finite (s == .negative) m q := by
  have hbias : q + (Format.binary64.exponentBias : Int) + (52 : Nat) = q + 1075 := by
    rw [add_assoc]; rfl
  have hlog : m.log2 = 52 ↔ 2 ^ 52 ≤ m ∧ m < 2 ^ 53 := Nat.log2_eq_iff (by omega)
  let x : Float := .ofModel (Float.Model.pack (.finite s m q hm))
  have hx : x.toModel.toBits.toBitVec = UnpackedFloat.pack Format.binary64 (.finite s m q hm) := rfl
  change ofFloat x = _
  simp only [UnpackedFloat.pack, hbias, show Format.binary64.mantissaBits = 53 from rfl] at hx
  rw [if_neg (by obtain h | h := h <;> omega)] at hx
  obtain ⟨hlt, rfl⟩ | ⟨hle, hlt, hq⟩ := h
  · rw [if_neg (by omega)] at hx
    rw [ofFloat_components x _ _ _ hx (by decide), if_pos (show (0#11).toNat = 0 from rfl), BitVec.toNat_ofNat,
      Nat.mod_eq_of_lt hlt]
  · rw [if_pos (by omega)] at hx
    have he : (BitVec.ofNat 11 (q + 1075).toNat).toNat = (q + 1075).toNat := by
      rw [BitVec.toNat_ofNat, Nat.mod_eq_of_lt (by omega)]
    have hf : (BitVec.ofNat 52 m).toNat = m - 2 ^ 52 := by
      rw [BitVec.toNat_ofNat]
      omega
    rw [ofFloat_components x _ _ _ hx (by rw [he]; omega), he, hf, if_neg (by omega), finite.injEq]
    exact ⟨rfl, by omega, by omega⟩

theorem ofFloat_pack_zero (s : Sign) :
    ofFloat (.ofModel (Float.Model.pack (.zero s))) = finite (s == .negative) 0 (-1074) := by
  cases s <;> decide

/-- Negation turns the sign over. -/
theorem ofFloat_neg {x : Float} {s : Bool} {m : Nat} {q : Int} (h : ofFloat x = finite s m q) :
    ofFloat (-x) = finite (!s) m q := by
  have hc := canonical_of_ofFloat h
  have hneg : -x = .ofModel (Float.Model.pack x.toModel.unpack.neg) := rfl
  have hsign : ∀ t : Sign, (-t == Sign.negative) = !(t == .negative) := by
    intro t
    cases t <;> rfl
  rw [ofFloat_eq] at h
  rw [hneg]
  cases hu : x.toModel.unpack with
  | notANumber => rw [hu] at h; cases h
  | infinity t => rw [hu] at h; cases h
  | zero t =>
    rw [hu] at h
    simp only [ofUnpacked, finite.injEq] at h
    rw [UnpackedFloat.neg, ofFloat_pack_zero, hsign, h.1, ← h.2.1, ← h.2.2]
  | finite t n r hn =>
    rw [hu] at h
    simp only [ofUnpacked, finite.injEq] at h
    obtain ⟨ht, rfl, rfl⟩ := h
    rw [UnpackedFloat.neg, ofFloat_pack hn hc, hsign, ht]

/-- Floats of one magnitude and sign are equal, and so are both zeros. -/
theorem beq_of_ofFloat {x y : Float} {s t : Bool} {m : Nat} {q : Int}
    (hx : ofFloat x = finite s m q) (hy : ofFloat y = finite t m q) (h : s = t ∨ m = 0) :
    (x == y) = true := by
  change (x.toModel.unpack.compare y.toModel.unpack == some .eq) = true
  rw [ofFloat_eq] at hx hy
  cases hu : x.toModel.unpack <;> cases hv : y.toModel.unpack <;>
    simp only [hu, hv, ofUnpacked, finite.injEq, reduceCtorEq] at hx hy
  · rfl
  · omega
  · omega
  · rename_i a n r hn b k p hk
    obtain ⟨hs, rfl, rfl⟩ := hx
    obtain ⟨ht, rfl, rfl⟩ := hy
    obtain h | h := h
    · have hab : a = b := by
        rw [← hs, ← ht] at h
        cases a <;> cases b <;> first | rfl | exact absurd h (by decide)
      subst hab
      cases a <;> simp [UnpackedFloat.compare]
    · omega

theorem ofFloat_of_beq {x y : Float} {s t : Bool} {m n : Nat} {q r : Int}
    (hx : ofFloat x = finite s m q) (hy : ofFloat y = finite t n r) (h : (x == y) = true) :
    m = n ∧ q = r ∧ (s = t ∨ m = 0) := by
  change (x.toModel.unpack.compare y.toModel.unpack == some .eq) = true at h
  rw [ofFloat_eq] at hx hy
  cases hu : x.toModel.unpack <;> cases hv : y.toModel.unpack <;>
    simp only [hu, hv, ofUnpacked, finite.injEq, reduceCtorEq] at hx hy h
  · omega
  · rename_i a b k p hk
    cases b <;> simp [UnpackedFloat.compare] at h
  · rename_i a b k p hk
    cases a <;> simp [UnpackedFloat.compare] at h
  · rename_i a k p hk b l o hl
    obtain ⟨rfl, rfl, rfl⟩ := hx
    obtain ⟨rfl, rfl, rfl⟩ := hy
    cases a <;> cases b <;>
      simp_all [UnpackedFloat.compare, Ordering.then_eq_eq]

/-- Comparing the other way round gives the opposite answer. -/
theorem compare_swap (u v : UnpackedFloat) : v.compare u = (u.compare v).map Ordering.swap := by
  cases u with
  | notANumber => cases v <;> rfl
  | infinity s => cases v with
    | infinity t => cases s <;> cases t <;> rfl
    | _ => cases s <;> rfl
  | zero s => cases v with
    | infinity t => cases t <;> rfl
    | finite t n r hn => cases t <;> rfl
    | _ => rfl
  | finite s m q hm => cases v with
    | notANumber => cases s <;> rfl
    | infinity t => cases s <;> cases t <;> rfl
    | zero t => cases s <;> rfl
    | finite t n r hn =>
      have hswap : (compare r q).then (compare n m) = ((compare q r).then (compare m n)).swap := by
        rw [Ordering.swap_then, Int.compare_swap, Nat.compare_swap]
      cases s <;> cases t <;> simp [UnpackedFloat.compare, hswap]

theorem isSome_compare {u v : UnpackedFloat} (hu : u ≠ .notANumber) (hv : v ≠ .notANumber) :
    (u.compare v).isSome := by
  cases u with
  | notANumber => exact absurd rfl hu
  | infinity s => cases v with
    | notANumber => exact absurd rfl hv
    | _ => cases s <;> rfl
  | zero s => cases v with
    | notANumber => exact absurd rfl hv
    | infinity t => cases t <;> rfl
    | finite t n r hn => cases t <;> rfl
    | zero => rfl
  | finite s m q hm => cases v with
    | notANumber => exact absurd rfl hv
    | infinity t => cases s <;> cases t <;> rfl
    | zero t => cases s <;> rfl
    | finite t n r hn => cases s <;> cases t <;> rfl

/-- Numbers are in a linear order; only what is not a number is neither below nor above. -/
theorem le_iff_not_lt {x y : Float} (hx : ofFloat x ≠ notANumber) (hy : ofFloat y ≠ notANumber) :
    x ≤ y ↔ ¬ y < x := by
  have hnan {x : Float} (h : ofFloat x ≠ notANumber) : x.toModel.unpack ≠ .notANumber := by
    rintro hu
    exact h (by rw [ofFloat_eq, hu]; rfl)
  obtain ⟨o, ho⟩ := Option.isSome_iff_exists.1 (isSome_compare (hnan hx) (hnan hy))
  have hle : x ≤ y ↔ ((x.toModel.unpack.compare y.toModel.unpack).any (·.isLE)) = true := by
    change decide _ = true ↔ _
    rw [decide_eq_true_iff]
    rfl
  have hlt : y < x ↔ (y.toModel.unpack.compare x.toModel.unpack == some .lt) = true := by
    change decide _ = true ↔ _
    rw [decide_eq_true_iff]
    rfl
  rw [hle, hlt, compare_swap x.toModel.unpack y.toModel.unpack, ho]
  cases o <;> decide

end Binary

end Rewards.Decimal
