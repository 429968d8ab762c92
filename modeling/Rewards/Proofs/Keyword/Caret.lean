import Rewards.Proofs.Keyword.Check
import Rewards.Proofs.Token.Partners

/-!
Where the caret points. If the parentheses of a keyword do not pair up, the message shows one that
has no partner: the first `)` of this kind, or else the last `(`.
-/

namespace Rewards.Label

open Text Token

section Run

variable {whole s u : Text} {opened : List Nat} {f : KindFlaw}

/-- The places that the check holds are those that the text read so far leaves open. A report is due
at a `)` behind a balanced text, or else at the end, for the innermost of these places. -/
theorem unpaired_reports (hu : LeavesOpen opened u)
    (h : unpaired whole u.length opened s = some f) :
    (∃ v w, u ++ s = v ++ ')' :: w ∧ Balanced v ∧ f = .strayClose v.length whole) ∨
      ∃ p outer, LeavesOpen (p :: outer) (u ++ s) ∧ f = .unclosed p whole := by
  induction s generalizing u opened with
  | nil =>
    rw [List.append_nil]
    cases opened with
    | nil => cases h
    | cons p outer =>
      cases h
      exact .inr ⟨p, outer, hu, rfl⟩
  | cons c s ih =>
    have hlen : u.length + 1 = (u ++ [c]).length := by rw [List.length_append]; rfl
    rw [Keyword.unpaired_cons, hlen] at h
    -- A `(` puts its place on top, a `)` takes the top away, and all else changes nothing.
    obtain rfl | rfl | hc := paren_cases c
    · rw [List.append_cons]
      exact ih hu.append_open h
    · cases opened with
      | nil =>
        cases h
        exact .inl ⟨u, s, rfl, hu.nesting_eq, rfl⟩
      | cons p opened =>
        rw [List.append_cons]
        exact ih hu.append_close h
    · have hu' := hu.append (balanced_singleton hc)
      simp only [isParen, Bool.or_eq_false_iff, decide_eq_false_iff_not] at hc
      rw [if_neg hc.1, if_neg hc.2] at h
      rw [List.append_cons]
      exact ih hu' h

/-- What is reported of a text that is not balanced. -/
theorem unpaired_of_not_balanced (whole : Text) (h : ¬Balanced s) :
    (∃ p, IsLeast {j | LoneClose s j} p ∧ unpaired whole 0 [] s = some (.strayClose p whole)) ∨
      (∀ j, ¬LoneClose s j) ∧ ∃ p, IsGreatest {i | LoneOpen s i} p ∧
        unpaired whole 0 [] s = some (.unclosed p whole) := by
  obtain ⟨f, hf⟩ : ∃ f, unpaired whole 0 [] s = some f := by
    rw [← Option.ne_none_iff_exists']
    exact fun hnone => h (unpaired_eq_none_iff.1 hnone)
  obtain ⟨v, w, hs, hv, rfl⟩ | ⟨p, outer, ho, rfl⟩ := unpaired_reports (u := []) (.none rfl) hf
  · rw [List.nil_append] at hs
    refine .inl ⟨v.length, ?_, hf⟩
    rw [hs]
    exact isLeast_loneClose hv w
  · exact .inr ⟨ho.not_loneClose, p, ho.isGreatest_loneOpen, hf⟩

/-- A text is balanced exactly if each of its parentheses has a partner. -/
theorem balanced_iff_paired : Balanced s ↔ (∀ j, ¬LoneClose s j) ∧ ∀ i, ¬LoneOpen s i := by
  constructor
  · intro h
    constructor
    · exact (LeavesOpen.none h).not_loneClose
    · intro i hi
      exact List.not_mem_nil (((LeavesOpen.none h).loneOpen_iff i).1 hi)
  · rintro ⟨hclose, hopen⟩
    by_contra h
    obtain ⟨p, hp, -⟩ | ⟨-, p, hp, -⟩ := unpaired_of_not_balanced s h
    · exact hclose p hp.1
    · exact hopen p hp.1

end Run

/-- The message has three lines: the reason, the keyword, and a caret below the given place. -/
def PointsAt (f : KindFlaw) (reason keyword : Text) (place : Nat) : Prop :=
  pieces '\n' f.message = [reason ++ [':'], keyword, List.replicate place ' ' ++ ['^']]

theorem pieces_pointed {reason keyword : Text} (hr : '\n' ∉ reason) (hk : '\n' ∉ keyword)
    (place : Nat) : pieces '\n' (reason ++ KindFlaw.pointed place keyword) =
      [reason ++ [':'], keyword, List.replicate place ' ' ++ ['^']] := by
  have hlines : reason ++ KindFlaw.pointed place keyword =
      reason ++ [':'] ++ '\n' :: (keyword ++ '\n' :: (List.replicate place ' ' ++ ['^'])) := by
    simp [KindFlaw.pointed]
  rw [hlines, pieces_append (by simp [hr]), pieces_append hk, pieces_of_not_mem]
  simp [List.mem_replicate]

/-- Without foreign characters, only the parentheses are left to check. -/
theorem keywordFlaw?_of_isAllowed {s : Text} (ha : ∀ c ∈ s, IsAllowed c)
    (hw : ∃ c ∈ s, isParen c = false) : keywordFlaw? (some s) = unpaired s 0 [] s := by
  obtain ⟨-, he⟩ | ⟨-, -, hl⟩ | ⟨h, -, -⟩ := keywordFlaw?_cases s
  · obtain ⟨c, hc, hp⟩ := hw
    rw [he c hc] at hp
    cases hp
  · obtain ⟨c, hc, hf⟩ := exists_foreign hl hw
    exact absurd (ha c hc) hf
  · exact h

/-- If the parentheses of an otherwise well-formed keyword do not pair up, the caret points at the
first `)` without a partner, or, if each `)` has one, at the last `(` without a partner. -/
theorem caret_at_lone_parenthesis {s : Text} (ha : ∀ c ∈ s, IsAllowed c)
    (hw : ∃ c ∈ s, isParen c = false) (hb : ¬Balanced s) :
    ((∃ j, LoneClose s j) → ∃ p, IsLeast {j | LoneClose s j} p ∧
      keywordFlaw? (some s) = some (.strayClose p s) ∧
      PointsAt (.strayClose p s) "Unmatched close parenthesis" s p) ∧
    ((∀ j, ¬LoneClose s j) → ∃ p, IsGreatest {i | LoneOpen s i} p ∧
      keywordFlaw? (some s) = some (.unclosed p s) ∧
      PointsAt (.unclosed p s) "Unmatched open parenthesis" s p) := by
  have hline : '\n' ∉ s := fun h => not_isAllowed_lineEnd (ha _ h)
  rw [keywordFlaw?_of_isAllowed ha hw]
  obtain ⟨p, hp, hf⟩ | ⟨hnone, p, hp, hf⟩ := unpaired_of_not_balanced s hb
  · constructor
    · intro _
      exact ⟨p, hp, hf, pieces_pointed (by decide) hline p⟩
    · intro hnone
      exact absurd hp.1 (hnone p)
  · constructor
    · rintro ⟨j, hj⟩
      exact absurd hj (hnone j)
    · intro _
      exact ⟨p, hp, hf, pieces_pointed (by decide) hline p⟩

/-- Neither the first `)` nor the last `(` need be the one. -/
theorem caret_passes_pairs :
    (IsLeast {j | LoneClose "(a)b)c)" j} 4 ∧
      keywordFlaw? (some "(a)b)c)".toList) = some (.strayClose 4 "(a)b)c)") ∧
      PointsAt (.strayClose 4 "(a)b)c)") "Unmatched close parenthesis" "(a)b)c)" 4) ∧
    IsGreatest {i | LoneOpen "((a(b)" i} 1 ∧
      keywordFlaw? (some "((a(b)".toList) = some (.unclosed 1 "((a(b)") ∧
      PointsAt (.unclosed 1 "((a(b)") "Unmatched open parenthesis" "((a(b)" 1 := by
  constructor
  · have hleast : IsLeast {j | LoneClose "(a)b)c)" j} 4 :=
      isLeast_loneClose (u := "(a)b".toList) (by decide) "c)".toList
    obtain ⟨hclose, -⟩ := caret_at_lone_parenthesis (s := "(a)b)c)")
      (by unfold IsAllowed; decide) ⟨'a', by decide, rfl⟩ (by decide)
    obtain ⟨p, hp, hf, hm⟩ := hclose ⟨4, hleast.1⟩
    obtain rfl := hp.unique hleast
    exact ⟨hp, hf, hm⟩
  · have hfirst : LeavesOpen [0] "(" := .append_open (u := []) (.none rfl)
    have hboth : LeavesOpen [1, 0] "((a(b)" := hfirst.one (b := "a(b)".toList) (by decide)
    obtain ⟨-, hopen⟩ := caret_at_lone_parenthesis (s := "((a(b)")
      (by unfold IsAllowed; decide) ⟨'a', by decide, rfl⟩ (by decide)
    obtain ⟨p, hp, hf, hm⟩ := hopen hboth.not_loneClose
    obtain rfl := hp.unique hboth.isGreatest_loneOpen
    exact ⟨hp, hf, hm⟩

end Rewards.Label
