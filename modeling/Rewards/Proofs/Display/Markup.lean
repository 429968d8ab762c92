import Mathlib.Data.List.TakeWhile
import Mathlib.Tactic.Common
import Rewards.Display.Markup

/-!
Markup that can be shown. Only its tags count: each has to close a style that is open, or to open one.
Escaped text has no tags, and a text without brackets behind markup adds none.
-/

namespace Rewards.Display.Markup

open Text

/-- Whatever the markup closes is open. -/
def Matched (markup : Text) : Prop := (render? markup).isSome

instance decidableMatched (markup : Text) : Decidable (Matched markup) :=
  inferInstanceAs (Decidable (_ = true))

def Piece.tag? : Piece → Option Text
  | plain _ => none
  | tag inner => some inner

/-- The tags in markup after a run of backslashes. -/
def tags (run : ℕ) (s : Text) : List Text := (piecesAfter [] run s).filterMap Piece.tag?

/-- What stands before does not matter for the tags. -/
theorem tags_piecesAfter (before : Text) (run : ℕ) (s : Text) :
    (piecesAfter before run s).filterMap Piece.tag? = tags run s := by
  have h : ∀ before', (piecesAfter before run s).filterMap Piece.tag? =
      (piecesAfter before' run s).filterMap Piece.tag? := by
    induction before, run, s using piecesAfter.induct with
    | case1 before run =>
      intro before'
      rw [piecesAfter, piecesAfter]
      rfl
    | case2 before run s ih =>
      intro before'
      rw [piecesAfter, piecesAfter, if_pos rfl, if_pos rfl]
      exact ih before'
    | case3 before run s inner h hc ih =>
      intro before'
      simp only [piecesAfter, if_neg hc, if_pos, h]
      rfl
    | case4 before run s h hc ih =>
      intro before'
      simp only [piecesAfter, if_neg hc, if_pos, h]
      exact ih _
    | case5 before run c s hs hb ih =>
      intro before'
      rw [piecesAfter, piecesAfter, if_neg hs, if_neg hb, if_neg hs, if_neg hb]
      exact ih _
  exact h []

section Tags

variable (run : ℕ) {s : Text}

theorem tags_nil : tags run [] = [] := by
  rw [tags, piecesAfter]
  rfl

theorem tags_backslash : tags run ('\\' :: s) = tags (run + 1) s := by
  rw [tags, piecesAfter, if_pos rfl]
  rfl

/-- An odd number of backslashes takes a tag for text. -/
theorem tags_open_of_some {inner : Text} (h : tag? s = some inner) : tags run ('[' :: s) =
    (if run % 2 = 1 then [] else [inner]) ++ tags 0 (s.drop (inner.length + 1)) := by
  simp only [tags, piecesAfter, if_neg (show '[' ≠ '\\' by decide), if_pos, h]
  split <;> rfl

theorem tags_open_of_none (h : tag? s = none) : tags run ('[' :: s) = tags 0 s := by
  simp only [tags, piecesAfter, if_neg (show '[' ≠ '\\' by decide), if_pos, h]
  exact tags_piecesAfter _ 0 s

theorem tags_other {c : Char} (hs : c ≠ '\\') (hb : c ≠ '[') : tags run (c :: s) = tags 0 s := by
  rw [tags, piecesAfter, if_neg hs, if_neg hb]
  exact tags_piecesAfter _ 0 s

theorem tags_slashes (n : ℕ) : tags run (slashes n ++ s) = tags (run + n) s := by
  induction n generalizing run with
  | zero => rfl
  | succ n ih =>
    rw [slashes, List.replicate_succ, List.cons_append, tags_backslash]
    exact (ih (run + 1)).trans (by rw [Nat.add_right_comm, Nat.add_assoc])

end Tags

/-- Only the tags decide whether markup can be shown. -/
theorem isSome_renderPieces (opened : List Text) (ps : List Piece) :
    (renderPieces opened ps).isSome =
      ((ps.filterMap Piece.tag?).foldlM (fun opened inner => follow? inner opened) opened).isSome := by
  induction ps generalizing opened with
  | nil => rfl
  | cons p ps ih =>
    cases p with
    | plain t =>
      rw [renderPieces, Option.isSome_map, ih]
      rfl
    | tag inner =>
      have htags : (Piece.tag inner :: ps).filterMap Piece.tag? =
          inner :: ps.filterMap Piece.tag? := rfl
      rw [renderPieces, htags, List.foldlM_cons]
      cases follow? inner opened with
      | none => rfl
      | some opened => exact ih opened

theorem matched_iff {markup : Text} : Matched markup ↔
    ((tags 0 markup).foldlM (fun opened inner => follow? inner opened) []).isSome := by
  rw [Matched, render?, isSome_renderPieces]
  rfl

theorem matched_of_tags {markup : Text} (h : tags 0 markup = []) : Matched markup := by
  rw [matched_iff, h]
  rfl

/-- What stands before the first bracket, if that is a closing one. -/
def closes? (s : Text) : Option Text :=
  let inner := s.takeWhile fun c => c ≠ '[' ∧ c ≠ ']'
  if (s.drop inner.length).head? = some ']' then some inner else none

/-- A character that is no bracket. -/
def IsInner (c : Char) : Prop := c ≠ '[' ∧ c ≠ ']'

instance decidableIsInner (c : Char) : Decidable (IsInner c) :=
  inferInstanceAs (Decidable (_ ∧ _))

section Closes

/-- A tag starts with one of a few characters. -/
theorem tag?_eq (s : Text) : tag? s = (closes? s).filter fun inner => inner.head?.any isTagStart := by
  unfold tag? closes?
  dsimp only
  split <;> rename_i h
  · rw [if_pos h.2, Option.filter_some, if_pos h.1]
  · split <;> rename_i hc
    · rw [Option.filter_some, if_neg fun ht => h ⟨ht, hc⟩]
    · rfl

theorem tag?_congr {s s' : Text} (h : closes? s = closes? s') : tag? s = tag? s' := by
  rw [tag?_eq, tag?_eq, h]

theorem closes?_open (s : Text) : closes? ('[' :: s) = none := rfl

theorem closes?_close (s : Text) : closes? (']' :: s) = some [] := rfl

theorem closes?_cons {c : Char} (h : IsInner c) (s : Text) :
    closes? (c :: s) = (closes? s).map (c :: ·) := by
  have htake : (c :: s).takeWhile (fun c => decide (c ≠ '[' ∧ c ≠ ']')) =
      c :: s.takeWhile fun c => decide (c ≠ '[' ∧ c ≠ ']') :=
    List.takeWhile_cons_of_pos (decide_eq_true h)
  rw [closes?, closes?, htake]
  simp only [List.length_cons, List.drop_succ_cons]
  split <;> rfl

/-- Up to a bracket all characters are part of it. -/
theorem closes?_append {p : Text} (hp : ∀ c ∈ p, IsInner c) (s : Text) :
    closes? (p ++ s) = (closes? s).map (p ++ ·) := by
  induction p with
  | nil => exact Option.map_id'.symm
  | cons c p ih =>
    obtain ⟨hc, hp⟩ := List.forall_mem_cons.1 hp
    rw [List.cons_append, closes?_cons hc, ih hp, Option.map_map]
    rfl

theorem closes?_inner {p : Text} (hp : ∀ c ∈ p, IsInner c) : closes? p = none := by
  have h := closes?_append hp []
  rwa [List.append_nil] at h

theorem bracket_cases (c : Char) : c = '[' ∨ c = ']' ∨ IsInner c := by
  unfold IsInner
  tauto

/-- A text without brackets behind it changes nothing. -/
theorem closes?_append_right (s : Text) {u : Text} (hu : ∀ c ∈ u, IsInner c) :
    closes? (s ++ u) = closes? s := by
  induction s with
  | nil => exact closes?_inner hu
  | cons c s ih =>
    obtain rfl | rfl | hc := bracket_cases c
    · rfl
    · rfl
    · rw [List.cons_append, closes?_cons hc, closes?_cons hc, ih]

theorem exists_of_closes? {s inner : Text} (h : closes? s = some inner) :
    (∀ c ∈ inner, IsInner c) ∧ ∃ rest, s = inner ++ ']' :: rest := by
  induction s generalizing inner with
  | nil => cases h
  | cons c s ih =>
    obtain rfl | rfl | hc := bracket_cases c
    · cases h
    · cases h
      exact ⟨by simp, s, rfl⟩
    · rw [closes?_cons hc] at h
      obtain ⟨inner, hs, rfl⟩ := Option.map_eq_some_iff.1 h
      obtain ⟨hinner, rest, rfl⟩ := ih hs
      exact ⟨List.forall_mem_cons.2 ⟨hc, hinner⟩, rest, rfl⟩

theorem exists_of_tag? {s inner : Text} (h : tag? s = some inner) :
    (∀ c ∈ inner, IsInner c) ∧ ∃ rest, s = inner ++ ']' :: rest := by
  rw [tag?_eq] at h
  exact exists_of_closes? (Option.eq_some_of_filter_eq_some h)

end Closes

theorem tags_of_not_mem {s : Text} (h : '[' ∉ s) (run : ℕ) : tags run s = [] := by
  induction s generalizing run with
  | nil => exact tags_nil run
  | cons c s ih =>
    rw [List.mem_cons, not_or] at h
    by_cases hc : c = '\\'
    · rw [hc, tags_backslash, ih h.2]
    · rw [tags_other run hc (Ne.symm h.1), ih h.2]

theorem tags_append {u : Text} (hu : ∀ c ∈ u, IsInner c) (run : ℕ) (s : Text) :
    tags run (s ++ u) = tags run s := by
  induction run, s using escapedAfter.induct with
  | case1 run =>
    rw [List.nil_append, tags_nil, tags_of_not_mem fun h => (hu _ h).1 rfl]
  | case2 run s ih => rw [List.cons_append, tags_backslash, tags_backslash, ih]
  | case3 run s inner h _ ih =>
    obtain ⟨-, rest, rfl⟩ := exists_of_tag? h
    have hlong : inner.length + 1 ≤ (inner ++ ']' :: rest).length := by simp
    rw [List.cons_append, tags_open_of_some run h,
      tags_open_of_some run ((tag?_congr (closes?_append_right _ hu)).trans h),
      List.drop_append_of_le_length hlong, ih]
  | case4 run s h _ ih =>
    rw [List.cons_append, tags_open_of_none run h,
      tags_open_of_none run ((tag?_congr (closes?_append_right _ hu)).trans h), ih]
  | case5 run c s hs hb ih => rw [List.cons_append, tags_other run hs hb, tags_other run hs hb, ih]

theorem matched_of_not_mem {markup : Text} (h : '[' ∉ markup) : Matched markup :=
  matched_of_tags (tags_of_not_mem h 0)

section Escaped

theorem isInner_slashes (n : ℕ) : ∀ c ∈ slashes n, IsInner c := by
  intro c hc
  rw [List.eq_of_mem_replicate hc]
  decide

/-- Brackets of escaped text are those of the text. -/
theorem closes?_escapedAfter (run : ℕ) (s : Text) :
    closes? (escapedAfter run s) = closes? (slashes run ++ s) := by
  induction run, s using escapedAfter.induct with
  | case1 run => rw [escapedAfter, List.append_nil]
  | case2 run s ih =>
    rw [escapedAfter, if_pos rfl, ih, slashes, slashes, List.replicate_succ', List.append_assoc]
    rfl
  | case3 run s inner h hc _ =>
    simp only [escapedAfter, if_neg hc, if_pos, h]
    rw [List.append_assoc, closes?_append (isInner_slashes _), closes?_append (isInner_slashes _)]
    rfl
  | case4 run s h hc _ =>
    simp only [escapedAfter, if_neg hc, if_pos, h]
    rw [closes?_append (isInner_slashes _), closes?_append (isInner_slashes _)]
    rfl
  | case5 run c s hs hb ih =>
    rw [escapedAfter, if_neg hs, if_neg hb, closes?_append (isInner_slashes _),
      closes?_append (isInner_slashes _)]
    obtain rfl | rfl | hc := bracket_cases c
    · exact absurd rfl hb
    · rfl
    · rw [closes?_cons hc, closes?_cons hc, ih]
      rfl

theorem tags_escapedAfter (run : ℕ) (s : Text) : tags 0 (escapedAfter run s) = [] := by
  induction run, s using escapedAfter.induct with
  | case1 run =>
    rw [escapedAfter]
    exact tags_of_not_mem (fun h => (isInner_slashes run _ h).1 rfl) 0
  | case2 run s ih => rwa [escapedAfter, if_pos rfl]
  | case3 run s inner h hc ih =>
    -- The number of backslashes before the tag is odd.
    obtain ⟨hinner, rest, rfl⟩ := exists_of_tag? h
    simp only [escapedAfter, if_neg hc, if_pos, h]
    generalize escapedAfter 0 _ = t at ih ⊢
    have htag : tag? (inner ++ ']' :: t) = some inner := by
      rw [← h]
      apply tag?_congr
      rw [closes?_append hinner, closes?_append hinner, closes?_close, closes?_close]
    rw [List.append_assoc, tags_slashes, List.cons_append, tags_open_of_some _ htag,
      if_pos (by omega), List.nil_append, List.drop_length_add_append]
    exact ih
  | case4 run s h hc ih =>
    simp only [escapedAfter, if_neg hc, if_pos, h]
    rw [tags_slashes, tags_open_of_none _ ((tag?_congr (closes?_escapedAfter 0 s)).trans h), ih]
  | case5 run c s hs hb ih =>
    rw [escapedAfter, if_neg hs, if_neg hb, tags_slashes, tags_other _ hs hb, ih]

/-- Escaped text can always be shown. -/
theorem matched_escaped (s : Text) : Matched (escaped s) := by
  apply matched_of_tags
  unfold escaped
  dsimp only
  split
  · exact (tags_append (isInner_slashes 1) 0 _).trans (tags_escapedAfter 0 s)
  · exact tags_escapedAfter 0 s

end Escaped

end Rewards.Display.Markup
