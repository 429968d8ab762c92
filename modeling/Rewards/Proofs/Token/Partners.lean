import Mathlib.Data.List.Induction
import Mathlib.Order.Bounds.Defs
import Rewards.Proofs.Token.Nesting

/-!
Which parentheses belong together. A `(` and a `)` are partners if what stands between them is
balanced. No parenthesis has two partners, and in a balanced text none is without. Of a text that
closes nothing but what it opens, only the `(` that it leaves open are without.
-/

namespace Rewards.Token

open Text

/-- The `(` at place `i` and the `)` at place `j` belong together. -/
def Partners (s : Text) (i j : Nat) : Prop :=
  ∃ before between behind, s = before ++ '(' :: (between ++ ')' :: behind) ∧ Balanced between ∧
    i = before.length ∧ j = before.length + between.length + 1

/-- There is a `(` at the place, and it has no partner. -/
def LoneOpen (s : Text) (i : Nat) : Prop := s[i]? = some '(' ∧ ∀ j, ¬Partners s i j

/-- There is a `)` at the place, and it has no partner. -/
def LoneClose (s : Text) (j : Nat) : Prop := s[j]? = some ')' ∧ ∀ i, ¬Partners s i j

section Places

variable {m m' u u' v v' : Text}

theorem exists_eq_append_cons {s : Text} {i : Nat} {c : Char} (h : s[i]? = some c) :
    ∃ u v, s = u ++ c :: v ∧ i = u.length := by
  obtain ⟨hi, rfl⟩ := List.getElem?_eq_some_iff.1 h
  refine ⟨s.take i, s.drop (i + 1), ?_, ?_⟩
  · rw [List.getElem_cons_drop, List.take_append_drop]
  · rw [List.length_take_of_le (Nat.le_of_lt hi)]

theorem getElem?_append_cons (u : Text) (c : Char) (v : Text) :
    (u ++ c :: v)[u.length]? = some c := by
  rw [List.getElem?_append_right (Nat.le_refl _), Nat.sub_self]
  rfl

theorem getElem?_behind (u : Text) (c : Char) (v : Text) (k : Nat) :
    (u ++ c :: v)[u.length + 1 + k]? = v[k]? := by
  rw [List.getElem?_append_right (by omega), show u.length + 1 + k - u.length = k + 1 by omega,
    List.getElem?_cons_succ]

theorem Balanced.not_append_close (h : Balanced m) (t : Text) : ¬Balanced (m ++ ')' :: t) := by
  intro ht
  rw [Balanced, nesting_append h] at ht
  cases ht

/-- A balanced text closes what it opens and nothing before it. -/
theorem Balanced.not_append_open (h : Balanced m) (t : Text) : ¬Balanced (t ++ '(' :: m) := by
  intro ht
  obtain ⟨d, -, hd⟩ := exists_nesting_of_append ht
  have hm := nesting_add h (d + 1)
  rw [Nat.zero_add] at hm
  rw [nesting_open, hm] at hd
  cases hd

/-- At most one `)` of a text ends a balanced part from its start on. -/
theorem Balanced.eq_of_append_close (hm : Balanced m) (hm' : Balanced m')
    (h : m ++ ')' :: v = m' ++ ')' :: v') : m = m' := by
  obtain ⟨t, rfl, ht⟩ | ⟨t, rfl, ht⟩ := List.append_eq_append_iff.1 h
  · obtain _ | ⟨c, t⟩ := t
    · exact (List.append_nil m).symm
    · cases ht
      exact absurd hm' (hm.not_append_close t)
  · obtain _ | ⟨c, t⟩ := t
    · exact List.append_nil m'
    · cases ht
      exact absurd hm (hm'.not_append_close t)

/-- At most one `(` of a text starts a balanced part up to its end. -/
theorem Balanced.eq_of_append_open (hm : Balanced m) (hm' : Balanced m')
    (h : u ++ '(' :: m = u' ++ '(' :: m') : u = u' := by
  obtain ⟨t, rfl, ht⟩ | ⟨t, rfl, ht⟩ := List.append_eq_append_iff.1 h
  · obtain _ | ⟨c, t⟩ := t
    · exact (List.append_nil u).symm
    · cases ht
      exact absurd hm (hm'.not_append_open t)
  · obtain _ | ⟨c, t⟩ := t
    · exact List.append_nil u'
    · cases ht
      exact absurd hm' (hm.not_append_open t)

end Places

namespace Partners

variable {s : Text} {i i' j j' : Nat}

theorem of_append {u : Text} (h : Balanced u) (before behind : Text) :
    Partners (before ++ '(' :: (u ++ ')' :: behind)) before.length (before.length + u.length + 1) :=
  ⟨before, u, behind, rfl, h, rfl, rfl⟩

theorem lt (h : Partners s i j) : i < j := by
  obtain ⟨u, m, v, -, -, rfl, rfl⟩ := h
  omega

theorem lt_length (h : Partners s i j) : j < s.length := by
  obtain ⟨u, m, v, rfl, -, rfl, rfl⟩ := h
  simp only [List.length_append, List.length_cons]
  omega

theorem getElem?_open (h : Partners s i j) : s[i]? = some '(' := by
  obtain ⟨u, m, v, rfl, -, rfl, -⟩ := h
  exact getElem?_append_cons u '(' _

theorem getElem?_close (h : Partners s i j) : s[j]? = some ')' := by
  obtain ⟨u, m, v, rfl, -, rfl, rfl⟩ := h
  simp [Nat.add_assoc]

theorem before (h : Partners s i j) (v : Text) : Partners (s ++ v) i j := by
  obtain ⟨u, m, w, rfl, hm, rfl, rfl⟩ := h
  exact ⟨u, m, w ++ v, by simp, hm, rfl, rfl⟩

theorem behind (h : Partners s i j) (u : Text) (c : Char) :
    Partners (u ++ c :: s) (u.length + 1 + i) (u.length + 1 + j) := by
  obtain ⟨v, m, w, rfl, hm, rfl, rfl⟩ := h
  refine ⟨u ++ c :: v, m, w, by simp, hm, ?_, ?_⟩ <;>
    rw [List.length_append, List.length_cons] <;> omega

theorem of_left {u v : Text} (h : Partners (u ++ v) i j) (hj : j < u.length) : Partners u i j := by
  obtain ⟨before, m, behind, hs, hm, rfl, rfl⟩ := h
  rw [← List.cons_append, ← List.append_assoc, List.append_cons _ ')'] at hs
  obtain ⟨t, rfl⟩ : before ++ '(' :: m ++ [')'] <+: u := by
    refine List.prefix_of_prefix_length_le (hs ▸ List.prefix_append _ behind)
      (List.prefix_append u v) ?_
    simp only [List.length_append, List.length_cons, List.length_nil]
    omega
  exact ⟨before, m, t, by simp, hm, rfl, rfl⟩

/-- A `(` has one partner at most. -/
theorem right_unique (h : Partners s i j) (h' : Partners s i j') : j = j' := by
  obtain ⟨u, m, v, rfl, hm, rfl, rfl⟩ := h
  obtain ⟨u', m', v', hs, hm', hu, rfl⟩ := h'
  obtain ⟨rfl, hv⟩ := List.append_inj hs hu
  obtain rfl := hm.eq_of_append_close hm' (List.cons.inj hv).2
  rfl

/-- A `)` has one partner at most. -/
theorem left_unique (h : Partners s i j) (h' : Partners s i' j) : i = i' := by
  obtain ⟨u, m, v, rfl, hm, rfl, rfl⟩ := h
  obtain ⟨u', m', v', hs, hm', rfl, hj⟩ := h'
  rw [← List.cons_append, ← List.append_assoc, ← List.cons_append, ← List.append_assoc] at hs
  obtain ⟨hopen, -⟩ := List.append_inj hs (by simpa [Nat.add_assoc] using hj)
  obtain rfl := hm.eq_of_append_open hm' hopen
  rfl

end Partners

/-- The text has partners for all parentheses but the `(` at the places `opened`, innermost
first. -/
inductive LeavesOpen : (opened : List Nat) → Text → Prop
  | none {b : Text} (hb : Balanced b) : LeavesOpen [] b
  | one {opened : List Nat} {u b : Text} (hu : LeavesOpen opened u) (hb : Balanced b) :
    LeavesOpen (u.length :: opened) (u ++ '(' :: b)

namespace LeavesOpen

variable {p : Nat} {opened : List Nat} {u b : Text}

theorem nesting_eq (h : LeavesOpen opened u) : nesting 0 u = some opened.length := by
  induction h with
  | none hb => exact hb
  | @one opened u b hu hb ih =>
    have hdeep := nesting_add hb (opened.length + 1)
    rw [Nat.zero_add] at hdeep
    rw [nesting_append ih, nesting_open, hdeep, List.length_cons]

theorem append (h : LeavesOpen opened u) (hb : Balanced b) : LeavesOpen opened (u ++ b) := by
  cases h with
  | none hu => exact .none (hu.append hb)
  | one hu hm =>
    rw [List.append_assoc, List.cons_append]
    exact .one hu (hm.append hb)

theorem append_open (h : LeavesOpen opened u) : LeavesOpen (u.length :: opened) (u ++ ['(']) :=
  .one h rfl

/-- A `)` closes the innermost open parenthesis. -/
theorem append_close (h : LeavesOpen (p :: opened) u) : LeavesOpen opened (u ++ [')']) := by
  cases h with
  | one hu hb =>
    rw [List.append_assoc, List.cons_append]
    exact hu.append hb.parenthesized

end LeavesOpen

theorem balanced_singleton {c : Char} (h : isParen c = false) : Balanced [c] :=
  balanced_of_parens_eq_nil (parens_cons_of_not h [])

theorem exists_leavesOpen {d : Nat} {u : Text} (h : nesting 0 u = some d) :
    ∃ opened, LeavesOpen opened u := by
  induction u using List.reverseRecOn generalizing d with
  | nil => exact ⟨[], .none rfl⟩
  | append_singleton u c ih =>
    obtain ⟨e, hu, hc⟩ := exists_nesting_of_append h
    obtain ⟨opened, ho⟩ := ih hu
    obtain rfl | rfl | hp := paren_cases c
    · exact ⟨_, ho.append_open⟩
    · cases opened with
      | nil =>
        rw [ho.nesting_eq] at hu
        cases hu
        cases hc
      | cons p opened => exact ⟨opened, ho.append_close⟩
    · exact ⟨opened, ho.append (balanced_singleton hp)⟩

/-- Where the nesting gets back to zero, the `(` before the text is closed. -/
theorem exists_close {d e : Nat} {u : Text} (h : nesting (d + 1 + e) u = some 0) :
    ∃ m v, u = m ++ ')' :: v ∧ nesting e m = some 0 := by
  induction u generalizing e with
  | nil =>
    rw [nesting] at h
    simp at h
  | cons c u ih =>
    obtain rfl | rfl | hc := paren_cases c
    · obtain ⟨m, v, rfl, hm⟩ := ih (e := e + 1) h
      exact ⟨'(' :: m, v, rfl, hm⟩
    · cases e with
      | zero => exact ⟨[], u, rfl, rfl⟩
      | succ e =>
        obtain ⟨m, v, rfl, hm⟩ := ih (e := e) h
        exact ⟨')' :: m, v, rfl, hm⟩
    · rw [nesting_other hc] at h
      obtain ⟨m, v, rfl, hm⟩ := ih h
      exact ⟨c :: m, v, rfl, by rw [nesting_other hc, hm]⟩

section Partner

variable {s : Text} {i j : Nat}

/-- Where nothing is closed that is not open, each `)` has its partner. -/
theorem exists_partner_of_close {d : Nat} (hs : nesting 0 s = some d) (hj : s[j]? = some ')') :
    ∃ i, Partners s i j := by
  obtain ⟨u, v, rfl, rfl⟩ := exists_eq_append_cons hj
  obtain ⟨e, hu, hv⟩ := exists_nesting_of_append hs
  obtain ⟨opened, ho⟩ := exists_leavesOpen hu
  cases ho with
  | none hb =>
    rw [hb] at hu
    cases hu
    cases hv
  | @one _ w b _ hb =>
    have h := Partners.of_append hb w v
    refine ⟨w.length, ?_⟩
    rw [List.append_assoc, List.cons_append, List.length_append, List.length_cons, ← Nat.add_assoc]
    exact h

/-- In a balanced text each `(` has its partner. -/
theorem Balanced.exists_partner_of_open (hs : Balanced s) (hi : s[i]? = some '(') :
    ∃ j, Partners s i j := by
  obtain ⟨u, v, rfl, rfl⟩ := exists_eq_append_cons hi
  obtain ⟨d, -, hv⟩ := exists_nesting_of_append hs
  obtain ⟨m, w, rfl, hm⟩ := exists_close (e := 0) hv
  exact ⟨_, Partners.of_append hm u w⟩

end Partner

/-- Behind a balanced text a `)` has no partner, and it is the first. -/
theorem isLeast_loneClose {u : Text} (h : Balanced u) (v : Text) :
    IsLeast {j | LoneClose (u ++ ')' :: v) j} u.length := by
  constructor
  · refine ⟨getElem?_append_cons u ')' v, fun i hp => ?_⟩
    -- A `(` before it has its partner before it already.
    have hi : u[i]? = some '(' := by
      rw [← List.getElem?_append_left hp.lt]
      exact hp.getElem?_open
    obtain ⟨j, hj⟩ := h.exists_partner_of_open hi
    have := hj.lt_length
    have := (hj.before (')' :: v)).right_unique hp
    omega
  · rintro j ⟨hj, hlone⟩
    by_contra hlt
    rw [List.getElem?_append_left (by omega)] at hj
    obtain ⟨i, hi⟩ := exists_partner_of_close h hj
    exact hlone i (hi.before (')' :: v))

section Left

variable {opened : List Nat} {u b : Text}

/-- Partners stand on the same side of a `(` with a balanced text behind it. -/
theorem Partners.same_side {i j : Nat} (hb : Balanced b) (h : Partners (u ++ '(' :: b) i j) :
    j < u.length ∨ u.length < i := by
  obtain hj | rfl | hj := Nat.lt_trichotomy j u.length
  · exact .inl hj
  · have hget := h.getElem?_close
    rw [getElem?_append_cons] at hget
    cases hget
  · obtain ⟨k, rfl⟩ : ∃ k, j = u.length + 1 + k := ⟨j - (u.length + 1), by omega⟩
    have hk : b[k]? = some ')' := by
      rw [← getElem?_behind u '(']
      exact h.getElem?_close
    obtain ⟨l, hl⟩ := exists_partner_of_close hb hk
    have := h.left_unique (hl.behind u '(')
    omega

namespace LeavesOpen

theorem not_loneClose (h : LeavesOpen opened u) (j : Nat) : ¬LoneClose u j := by
  rintro ⟨hj, hlone⟩
  obtain ⟨i, hi⟩ := exists_partner_of_close h.nesting_eq hj
  exact hlone i hi

theorem lt_length (h : LeavesOpen opened u) : ∀ i ∈ opened, i < u.length := by
  induction h with
  | none => simp
  | one _ _ ih =>
    refine List.forall_mem_cons.2 ⟨by simp, fun i hi => ?_⟩
    have := ih i hi
    rw [List.length_append]
    omega

/-- The places are those of the parentheses without a partner. -/
theorem loneOpen_iff (h : LeavesOpen opened u) (i : Nat) : LoneOpen u i ↔ i ∈ opened := by
  induction h with
  | none hb =>
    refine iff_of_false ?_ List.not_mem_nil
    rintro ⟨hi, hlone⟩
    obtain ⟨j, hj⟩ := hb.exists_partner_of_open hi
    exact hlone j hj
  | @one opened u b hu hb ih =>
    rw [List.mem_cons]
    -- In front of the last `(` all is as before, it has no partner, and all behind it have one.
    obtain hi | rfl | hi := Nat.lt_trichotomy i u.length
    · rw [or_iff_right (Nat.ne_of_lt hi), ← ih, LoneOpen, LoneOpen, List.getElem?_append_left hi]
      refine and_congr_right fun _ => forall_congr' fun j => not_congr ⟨fun hp => ?_, fun hp => ?_⟩
      · exact hp.of_left ((hp.same_side hb).resolve_right (by omega))
      · exact hp.before ('(' :: b)
    · refine iff_of_true ⟨getElem?_append_cons u '(' b, fun j hp => ?_⟩ (.inl rfl)
      have := hp.lt
      have := hp.same_side hb
      omega
    · have hmem : ¬(i = u.length ∨ i ∈ opened) := by
        rintro (rfl | hm)
        · omega
        · have := hu.lt_length i hm
          omega
      refine iff_of_false ?_ hmem
      rintro ⟨hget, hlone⟩
      obtain ⟨k, rfl⟩ : ∃ k, i = u.length + 1 + k := ⟨i - (u.length + 1), by omega⟩
      rw [getElem?_behind] at hget
      obtain ⟨j, hj⟩ := hb.exists_partner_of_open hget
      exact hlone _ (hj.behind u '(')

/-- The innermost of the parentheses that are left open is the last one without a partner. -/
theorem isGreatest_loneOpen {p : Nat} (h : LeavesOpen (p :: opened) u) :
    IsGreatest {i | LoneOpen u i} p := by
  refine ⟨(h.loneOpen_iff p).2 List.mem_cons_self, fun i hi => ?_⟩
  obtain rfl | hm := List.mem_cons.1 ((h.loneOpen_iff i).1 hi)
  · exact Nat.le_refl i
  · cases h with
    | one hu _ => exact Nat.le_of_lt (hu.lt_length i hm)

end LeavesOpen

end Left

end Rewards.Token
