import Mathlib
import Rewards.Decimal.Notation
import Rewards.Proofs.Decimal.Reading
import Rewards.Proofs.Decimal.Shortest

/-!
The written form of a float. Every layout of some digits is a text whose parts have the value of
the digits, so that the shortest text of a float reads back to it.
-/

namespace Rewards.Decimal

open Text Binary Rounding

theorem isDigit_of_mem_zeros {n : ℕ} {c : Char} (h : c ∈ zeros n) : isDigit c := by
  rw [List.eq_of_mem_replicate h]
  decide

@[simp] theorem number_zeros (n : ℕ) : number (zeros n) = 0 := by
  induction n with
  | zero => rfl
  | succ n ih =>
    rw [zeros, List.replicate_succ', number_append]
    change number (zeros n) * _ + _ = 0
    rw [ih, zero_mul]
    decide

@[simp] theorem length_zeros (n : ℕ) : (zeros n).length = n := List.length_replicate

theorem number_zeros_append (n : ℕ) (s : Text) : number (zeros n ++ s) = number s := by
  rw [number_append, number_zeros, zero_mul, zero_add]

theorem number_append_zeros (s : Text) (n : ℕ) : number (s ++ zeros n) = number s * 10 ^ n := by
  rw [number_append, number_zeros, length_zeros, add_zero]

namespace Parts

/-- The value of the parts, before it is rounded. -/
def exact (p : Parts) : ℚ :=
  number (p.whole ++ p.fraction) * 10 ^ (p.exponent - p.fraction.length)

end Parts

theorem exponent?_written (l : Layout) (e : ℤ) :
    exponent? ((if e < 0 then '-' else '+') :: zeros (l.exponentWidth - (numeral e.natAbs).length) ++
      numeral e.natAbs) = some e := by
  generalize l.exponentWidth - (numeral e.natAbs).length = k
  have hall : allDigits (zeros k ++ numeral e.natAbs) := by
    simp only [allDigits, Bool.and_eq_true, Bool.not_eq_true', List.isEmpty_eq_false_iff, ne_eq,
      List.append_eq_nil_iff, numeral_ne_nil, and_false, not_false_eq_true, true_and, List.all_eq_true,
      List.mem_append]
    rintro c (h | h)
    · exact isDigit_of_mem_zeros h
    · exact isDigit_of_mem_numeral h
  by_cases he : e < 0
  · simp only [exponent?, if_pos he, sign, List.cons_append, hall, if_true, number_zeros_append,
      number_numeral]
    congr 1
    omega
  · simp only [exponent?, if_neg he, sign, List.cons_append, hall, if_true, number_zeros_append,
      number_numeral, Bool.false_eq_true, if_false]
    congr 1
    omega

section Parts

variable {w f r : Text}

theorem takeWhile_digits (hw : ∀ c ∈ w, isDigit c) (hr : ∀ c ∈ r.head?, isDigit c = false) :
    (w ++ r).takeWhile isDigit = w ∧ (w ++ r).dropWhile isDigit = r := by
  have hd : r.takeWhile isDigit = [] ∧ r.dropWhile isDigit = r := by
    cases r with
    | nil => exact ⟨rfl, rfl⟩
    | cons c r => simp [hr c rfl]
  rw [List.takeWhile_append_of_pos hw, List.dropWhile_append_of_pos hw, hd.1, hd.2]
  exact ⟨List.append_nil w, rfl⟩

theorem ofText?_whole (hw : ∀ c ∈ w, isDigit c) (hne : w ≠ []) :
    Parts.ofText? w = some ⟨w, [], 0⟩ := by
  have h := takeWhile_digits (r := []) hw (by simp)
  rw [List.append_nil] at h
  simp only [Parts.ofText?, h.1, h.2]
  simp [hne]

theorem ofText?_fraction (hw : ∀ c ∈ w, isDigit c) (hf : ∀ c ∈ f, isDigit c) (hne : w ≠ []) :
    Parts.ofText? (w ++ '.' :: f) = some ⟨w, f, 0⟩ := by
  have h := takeWhile_digits (r := '.' :: f) hw (by simp; decide)
  have h' := takeWhile_digits (r := []) hf (by simp)
  rw [List.append_nil] at h'
  simp only [Parts.ofText?, h.1, h.2, h'.1, h'.2]
  simp [hne]

theorem ofText?_exponent (hw : ∀ c ∈ w, isDigit c) (hne : w ≠ []) :
    Parts.ofText? (w ++ 'e' :: r) = (exponent? r).map (⟨w, [], ·⟩) := by
  have h := takeWhile_digits (r := 'e' :: r) hw (by simp; decide)
  simp only [Parts.ofText?, h.1, h.2]
  simp [hne]

theorem ofText?_fraction_exponent (hw : ∀ c ∈ w, isDigit c) (hf : ∀ c ∈ f, isDigit c)
    (hne : w ≠ []) :
    Parts.ofText? (w ++ '.' :: (f ++ 'e' :: r)) = (exponent? r).map (⟨w, f, ·⟩) := by
  have h := takeWhile_digits (r := '.' :: (f ++ 'e' :: r)) hw (by simp; decide)
  have h' := takeWhile_digits (r := 'e' :: r) hf (by simp; decide)
  simp only [Parts.ofText?, h.1, h.2, h'.1, h'.2]
  simp [hne]

end Parts

theorem ofText?_positional {ds : Text} (hds : ∀ c ∈ ds, isDigit c) (hne : ds ≠ []) (e : ℤ) :
    ∃ p, Parts.ofText? (Layout.positional ds (ds.length + e)) = some p ∧
      p.exact = number ds * 10 ^ e := by
  have hl := List.length_pos_iff.2 hne
  rw [Layout.positional]
  split_ifs with h0 h1
  · refine ⟨_, ofText?_fraction (w := ['0']) (by decide) (f := zeros _ ++ ds) ?_ (by simp), ?_⟩
    · intro c hc
      obtain hc | hc := List.mem_append.1 hc
      · exact isDigit_of_mem_zeros hc
      · exact hds c hc
    · rw [Parts.exact]
      change (number (zeros 1 ++ (zeros _ ++ ds)) : ℚ) * _ = _
      rw [number_zeros_append, number_zeros_append, List.length_append, length_zeros]
      congr 2
      push_cast
      omega
  · have hz : ∀ c ∈ ds ++ zeros (ds.length + e - ds.length).toNat, isDigit c := by
      intro c hc
      obtain hc | hc := List.mem_append.1 hc
      · exact hds c hc
      · exact isDigit_of_mem_zeros hc
    refine ⟨_, ofText?_fraction (f := ['0']) hz (by decide) (by simp [hne]), ?_⟩
    rw [Parts.exact]
    change (number ((ds ++ zeros _) ++ zeros 1) : ℚ) * _ = _
    rw [number_append_zeros, number_append_zeros]
    have he : (10 : ℚ) ^ e = 10 ^ (ds.length + e - ds.length).toNat := by
      rw [← zpow_natCast]
      congr 1
      omega
    rw [he]
    push_cast
    rw [mul_assoc, List.length_singleton]
    norm_num
  · refine ⟨_, ofText?_fraction (w := ds.take _) (f := ds.drop _) ?_ ?_ ?_, ?_⟩
    · exact fun c hc => hds c (List.mem_of_mem_take hc)
    · exact fun c hc => hds c (List.mem_of_mem_drop hc)
    · rw [Ne, List.take_eq_nil_iff]
      rintro (h | h)
      · omega
      · exact hne h
    · rw [Parts.exact]
      simp only [List.take_append_drop, List.length_drop]
      congr 2
      omega

theorem ofText?_scientific {ds : Text} (hds : ∀ c ∈ ds, isDigit c) (hne : ds ≠ []) (l : Layout)
    (e : ℤ) :
    ∃ p, Parts.ofText? (l.scientific ds (ds.length + e - 1)) = some p ∧
      p.exact = number ds * 10 ^ e := by
  generalize hE : (ds.length + e - 1 : ℤ) = E
  have hexp := exponent?_written l E
  match ds with
  | [] => exact absurd rfl hne
  | [d] =>
    refine ⟨⟨[d], [], E⟩, ?_, ?_⟩
    · have h := ofText?_exponent hds (by simp) (r := (if E < 0 then '-' else '+') ::
        zeros (l.exponentWidth - (numeral E.natAbs).length) ++ numeral E.natAbs)
      rw [hexp] at h
      exact h
    · rw [Parts.exact, List.append_nil]
      congr 2
      simp at hE ⊢
      omega
  | d :: c :: rest =>
    refine ⟨⟨[d], c :: rest, E⟩, ?_, ?_⟩
    · have h := ofText?_fraction_exponent (w := [d]) (f := c :: rest)
        (by simpa using hds d (by simp)) (fun x hx => hds x (List.mem_cons_of_mem _ hx)) (by simp)
        (r := (if E < 0 then '-' else '+') ::
        zeros (l.exponentWidth - (numeral E.natAbs).length) ++ numeral E.natAbs)
      rw [hexp] at h
      exact h
    · rw [Parts.exact]
      congr 2
      simp at hE ⊢
      omega

/-- The parts of written digits have the value of the digits. -/
theorem ofText?_write (l : Layout) (d : Digits) :
    ∃ p, Parts.ofText? (l.write d) = some p ∧ p.exact = d.digits * 10 ^ d.exponent := by
  have hds : ∀ c ∈ numeral d.digits, isDigit c := fun c => isDigit_of_mem_numeral
  rw [Layout.write]
  split
  · have h := ofText?_positional hds (numeral_ne_nil _) d.exponent
    rwa [number_numeral] at h
  · have h := ofText?_scientific hds (numeral_ne_nil _) l d.exponent
    rwa [number_numeral] at h

theorem sign_of_ofText? {s : Text} {p : Parts} (h : Parts.ofText? s = some p) :
    sign s = (false, s) := by
  match s with
  | [] => rfl
  | c :: s =>
    by_cases h1 : c = '-'
    · subst h1
      cases h
    · by_cases h2 : c = '+'
      · subst h2
        cases h
      · simp only [sign]
        split <;> simp_all

theorem read?_signed {s : Text} {p : Parts} (h : Parts.ofText? s = some p) (negative : Bool) :
    read? (signed negative s) = some (if negative then -p.value else p.value) := by
  cases negative with
  | true => simp [read?, signed, sign, h]
  | false => simp [read?, signed, sign_of_ofText? h, h]

/-- Parts whose exact value lies next to a float, and their sign, are read as that float. -/
theorem ofFloat_value {p : Parts} {m : ℕ} {q : ℤ} (hc : Canonical m q) (hm : 0 < m)
    (hv : Within m q p.exact) (negative : Bool) :
    ofFloat (if negative then -p.value else p.value) = finite negative m q := by
  have h : ofFloat p.value = finite false m q := ofFloat_scaled hc hm hv
  cases negative with
  | true => exact ofFloat_neg h
  | false => exact h

/-- The shortest text of a float reads back to the float. -/
theorem read?_write {x : Float} (h : (ofFloat x).isFinite) :
    ∃ y, read? (write x) = some y ∧ ofFloat y = ofFloat x := by
  obtain ⟨negative, m, q, hx⟩ : ∃ s m q, ofFloat x = finite s m q := by
    cases hx : ofFloat x <;> simp_all [isFinite]
  have hc := canonical_of_ofFloat hx
  simp only [write, hx]
  obtain rfl | hm := Nat.eq_zero_or_pos m
  · obtain ⟨rfl⟩ : q = -1074 := by obtain h | h := hc <;> omega
    rw [if_pos rfl]
    refine ⟨_, read?_signed (p := ⟨['0'], ['0'], 0⟩) (by rfl) negative, ?_⟩
    cases negative <;> decide
  · rw [if_neg hm.ne']
    obtain ⟨p, hp, hv⟩ := ofText?_write plainLayout (shortest m q)
    refine ⟨_, read?_signed hp negative, ofFloat_value hc hm ?_ negative⟩
    rw [hv]
    exact within_shortest hc hm

theorem wholePart?_value {m n : ℕ} {q : ℤ} (h : wholePart? m q = some n) :
    (n : ℚ) = m * 2 ^ q := by
  cases q with
  | ofNat k =>
    simp only [wholePart?, Option.some.injEq] at h
    rw [← h]
    push_cast
    rfl
  | negSucc k =>
    simp only [wholePart?, Option.ite_none_right_eq_some, Option.some.injEq] at h
    obtain ⟨hd, rfl⟩ := h
    have hz : ((2 ^ (k + 1) : ℕ) : ℚ) ≠ 0 := by positivity
    rw [Nat.cast_div (Nat.dvd_of_mod_eq_zero hd) hz, zpow_negSucc, div_eq_mul_inv]
    push_cast
    rfl

/-- A float lies next to itself. -/
theorem within_self (m : ℕ) (q : ℤ) (hm : 0 < m) : Within m q (m * 2 ^ q) := by
  have hu : (0 : ℚ) < 2 ^ (q - 2) := zpow_pos two_pos _
  have h4 : (m * 2 ^ q : ℚ) = (4 * m : ℕ) * 2 ^ (q - 2) := by
    rw [show (2 : ℚ) ^ q = 2 ^ (2 + (q - 2)) by ring_nf, zpow_add₀ two_ne_zero]
    push_cast
    ring
  have hb : Shortest.quarterBelow m q < 4 * m := by
    rw [Shortest.quarterBelow]
    split <;> omega
  have hlow : (Shortest.quarterBelow m q * 2 ^ (q - 2) : ℚ) < (4 * m : ℕ) * 2 ^ (q - 2) :=
    mul_lt_mul_of_pos_right (by exact_mod_cast hb) hu
  have hhigh : ((4 * m : ℕ) * 2 ^ (q - 2) : ℚ) < (4 * m + 2) * 2 ^ (q - 2) :=
    mul_lt_mul_of_pos_right (by push_cast; linarith) hu
  rw [h4]
  exact ⟨hlow.le, hhigh.le, fun _ => ⟨hlow, hhigh⟩⟩

/-- The integer that a float equals reads back to an equal float, and is not a long one. -/
theorem read?_integer {x : Float} {n : ℤ} (h : integer? x = some n) :
    (numeral n.natAbs).length ≤ 309 ∧
      ∃ y, read? (integer n) = some y ∧ (ofFloat y).isFinite ∧ (y == x) = true := by
  cases hx : ofFloat x with
  | notANumber => simp [integer?, hx, toInt?] at h
  | infinite s => simp [integer?, hx, toInt?] at h
  | finite negative m q =>
    obtain ⟨k, hk, hn⟩ : ∃ k, wholePart? m q = some k ∧ (if negative then -(k : ℤ) else k) = n := by
      simpa [integer?, hx, toInt?, Option.bind_eq_some_iff] using h
    have hint : integer n = signed (n < 0) (numeral n.natAbs) := by
      rw [integer, signed]
      simp only [decide_eq_true_eq]
    have hparts := ofText?_whole (fun c => isDigit_of_mem_numeral) (numeral_ne_nil n.natAbs)
    have hread := read?_signed hparts (n < 0)
    rw [← hint] at hread
    have hexact : (⟨numeral n.natAbs, [], 0⟩ : Parts).exact = n.natAbs := by
      simp [Parts.exact]
    obtain rfl | hm := Nat.eq_zero_or_pos m
    · have hk0 : (k : ℚ) = 0 := by rw [wholePart?_value hk, Nat.cast_zero, zero_mul]
      obtain rfl : k = 0 := by exact_mod_cast hk0
      obtain rfl : n = 0 := by rw [← hn]; split <;> rfl
      have hq : q = -1074 := by obtain h | h := canonical_of_ofFloat hx <;> omega
      refine ⟨by decide, _, hread, by decide, ?_⟩
      refine beq_of_ofFloat (s := false) (m := 0) (q := q) ?_ hx (.inr rfl)
      rw [hq]
      decide
    · have hc := canonical_of_ofFloat hx
      have hkpos : 0 < k := by
        rw [Nat.pos_iff_ne_zero]
        rintro rfl
        have := wholePart?_value hk
        have hpos : (0 : ℚ) < m * 2 ^ q :=
          mul_pos (by exact_mod_cast hm) (zpow_pos two_pos _)
        rw [← this, Nat.cast_zero] at hpos
        exact hpos.false
      have habs : n.natAbs = k := by rw [← hn]; split <;> omega
      have hneg : decide (n < 0) = negative := by
        rw [← hn]
        cases negative with
        | true => simpa using hkpos
        | false => simp
      have hv : Within m q (⟨numeral n.natAbs, [], 0⟩ : Parts).exact := by
        rw [hexact, habs, wholePart?_value hk]
        exact within_self m q hm
      have hbounds := magnitude_bounds (n := n.natAbs) (e := 0) hc hm (by simpa [hexact] using hv)
      have hy := ofFloat_value hc hm hv (n < 0)
      refine ⟨by omega, _, hread, by rw [hy]; rfl, beq_of_ofFloat hy hx (.inl hneg)⟩

/-- Digits, a sign, a point and the mark of an exponent. -/
def isNumberChar (c : Char) : Bool :=
  isAsciiDigit c || c == '-' || c == '+' || c == '.' || c == 'e'

theorem isNumberChar_of_mem_numeral {n : ℕ} {c : Char} (h : c ∈ numeral n) : isNumberChar c := by
  simp [isNumberChar, isAsciiDigit_of_mem_numeral h]

theorem isNumberChar_of_mem_zeros {n : ℕ} {c : Char} (h : c ∈ zeros n) : isNumberChar c := by
  rw [List.eq_of_mem_replicate h]
  decide

theorem isNumberChar_of_mem_signed {negative : Bool} {s : Text} (hs : ∀ c ∈ s, isNumberChar c) :
    ∀ c ∈ signed negative s, isNumberChar c := by
  cases negative with
  | true =>
    intro c hc
    obtain rfl | hc := List.mem_cons.1 hc
    · decide
    · exact hs c hc
  | false => exact hs

theorem isNumberChar_of_mem_integer {n : ℤ} : ∀ c ∈ integer n, isNumberChar c := by
  rw [integer]
  split
  · exact List.forall_mem_cons.2 ⟨by decide, fun c => isNumberChar_of_mem_numeral⟩
  · exact fun c => isNumberChar_of_mem_numeral

theorem isNumberChar_of_mem_exponent {l : Layout} {e : ℤ} :
    ∀ c ∈ l.exponent e, isNumberChar c := by
  simp only [Layout.exponent, List.cons_append, List.forall_mem_cons, List.forall_mem_append]
  refine ⟨by decide, by split <;> decide, ?_, ?_⟩
  · exact fun c => isNumberChar_of_mem_zeros
  · exact fun c => isNumberChar_of_mem_numeral

theorem isNumberChar_of_mem_layout {l : Layout} {d : Digits} :
    ∀ c ∈ l.write d, isNumberChar c := by
  have hds : ∀ c ∈ numeral d.digits, isNumberChar c := fun c => isNumberChar_of_mem_numeral
  have hz : ∀ n, ∀ c ∈ zeros n, isNumberChar c := fun n c => isNumberChar_of_mem_zeros
  rw [Layout.write]
  generalize numeral d.digits = ds at *
  split
  · rw [Layout.positional]
    split_ifs
    · exact List.forall_mem_append.2 ⟨List.forall_mem_append.2 ⟨by decide, hz _⟩, hds⟩
    · exact List.forall_mem_append.2 ⟨List.forall_mem_append.2 ⟨hds, hz _⟩, by decide⟩
    · refine List.forall_mem_append.2 ⟨fun c hc => hds c (List.mem_of_mem_take hc), ?_⟩
      exact List.forall_mem_cons.2 ⟨by decide, fun c hc => hds c (List.mem_of_mem_drop hc)⟩
  · rw [Layout.scientific.eq_def]
    split
    · exact isNumberChar_of_mem_exponent
    · exact List.forall_mem_cons.2 ⟨hds _ (by simp), isNumberChar_of_mem_exponent⟩
    · refine List.forall_mem_cons.2 ⟨hds _ (by simp), List.forall_mem_cons.2 ⟨by decide, ?_⟩⟩
      refine List.forall_mem_append.2 ⟨?_, isNumberChar_of_mem_exponent⟩
      exact fun c hc => hds c (List.mem_cons_of_mem _ hc)

theorem isNumberChar_of_mem_write {x : Float} (h : (ofFloat x).isFinite) :
    ∀ c ∈ write x, isNumberChar c := by
  rw [write]
  cases hx : ofFloat x with
  | notANumber => simp [hx, isFinite] at h
  | infinite s => simp [hx, isFinite] at h
  | finite negative m q =>
    apply isNumberChar_of_mem_signed
    split
    · decide
    · exact isNumberChar_of_mem_layout

end Rewards.Decimal
