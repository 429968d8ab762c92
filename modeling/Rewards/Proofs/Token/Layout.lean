import Rewards.Proofs.Token.Lines

/-!
Layouts of tokens. However tokens are laid out between commas, with spaces around each and with
segments that hold none, splitting gives the same tokens back.
-/

namespace Rewards.Token

open Text

/-- What stands between two commas: spaces, with a token among them or without. -/
structure Segment where
  before : Nat
  token : Option Text
  after : Nat

namespace Segment

def text (s : Segment) : Text :=
  List.replicate s.before ' ' ++ (s.token.getD [] ++ List.replicate s.after ' ')

end Segment

/-- The segments in order, with a comma between neighbours. -/
def layout (segments : List Segment) : Text := joined [','] (segments.map Segment.text)

theorem layout_concat {segments : List Segment} (h : segments ≠ []) (s : Segment) :
    layout (segments ++ [s]) = layout segments ++ ',' :: s.text := by
  rw [layout, List.map_append, List.map_singleton, joined_concat (by simpa using h),
    List.append_assoc]
  rfl

theorem isBlank_of_mem_spaces {n : Nat} : ∀ c ∈ List.replicate n ' ', isBlank c :=
  isBlank_of_spaces fun _ => List.eq_of_mem_replicate

theorem Whole.split {t : Text} (h : Whole t) (whole : Text) : Token.split whole t = .ok [t] :=
  split_joined whole (List.forall_mem_singleton.2 h)

section Segment

variable {s : Segment} (h : ∀ t ∈ s.token, Whole t)

include h

theorem tokens_text : tokens s.text = .ok s.token.toList := by
  obtain ⟨m, token, n⟩ := s
  cases token with
  | none =>
    rw [Segment.text, Option.getD_none, List.nil_append]
    have hspaces := tokens_append_blank (List.forall_mem_append.2 ⟨isBlank_of_mem_spaces (n := m),
      isBlank_of_mem_spaces (n := n)⟩) []
    exact hspaces.trans tokens_nil
  | some t =>
    have ht : Whole t := h t rfl
    rw [Segment.text, tokens, Option.getD_some,
      trim_append isBlank_of_mem_spaces ht.trimmed isBlank_of_mem_spaces]
    exact ht.split t

theorem flush_text : Flush s.text := by
  apply flush_of_trimmed (fun _ => List.eq_of_mem_replicate) _ fun _ => List.eq_of_mem_replicate
  cases hs : s.token with
  | none => exact trimmed_nil
  | some t => exact (h t hs).trimmed

/-- One more segment behind a text adds its token, if it has one. -/
theorem tokens_append_text {a : Text} {ts : List Text} (ha : tokens a = .ok ts) :
    tokens (a ++ ',' :: s.text) = .ok (ts ++ s.token.toList) :=
  tokens_append_flush ha (tokens_text h) (flush_text h)

end Segment

/-- Splitting gives back any tokens from any layout. The tokens are words without commas that start
with no parenthesis, and groups that end with the partner of their first parenthesis; they stand in order,
one in a segment, with any number of spaces around each and any number of segments without a token
before, between and behind them. -/
theorem tokens_of_layout {ts : List Text} (hts : ∀ t ∈ ts, Whole t) {segments : List Segment}
    (h : segments.filterMap Segment.token = ts) : tokens (layout segments) = .ok ts := by
  subst h
  induction segments using List.reverseRecOn with
  | nil => exact tokens_nil
  | append_singleton segments s ih =>
    rw [List.filterMap_append] at hts ⊢
    obtain ⟨hinit, hlast⟩ := List.forall_mem_append.1 hts
    have hs : ∀ t ∈ s.token, Whole t := fun t ht => hlast t (List.mem_filterMap.2 ⟨s, by simp, ht⟩)
    have htoken : [s].filterMap Segment.token = s.token.toList := by
      cases hc : s.token <;> simp [hc]
    rw [htoken]
    obtain rfl | hne := eq_or_ne segments []
    · exact tokens_text hs
    · rw [layout_concat hne]
      exact tokens_append_text hs (ih hinit)

/-- A word with a parenthesis inside, a group with commas, and segments without a token. -/
theorem tokens_of_layout_padded :
    let ts : List Text := ["a (b", "(c, (d) ,)"]
    let segments : List Segment :=
      [⟨1, none, 1⟩, ⟨2, some "a (b".toList, 1⟩, ⟨0, none, 0⟩, ⟨0, some "(c, (d) ,)".toList, 3⟩,
        ⟨0, none, 2⟩]
    (∀ t ∈ ts, Whole t) ∧ segments.filterMap Segment.token = ts ∧
      layout segments = "  ,  a (b ,,(c, (d) ,)   ,  ".toList ∧
      tokens "  ,  a (b ,,(c, (d) ,)   ,  " = .ok ts := by
  intro ts segments
  have hword : Whole "a (b" := .inr ⟨⟨by decide, by decide, by decide⟩, by decide⟩
  have hgroup : Whole "(c, (d) ,)" := .inl ⟨"c, (d) ,".toList, by decide, by decide⟩
  have hts : ∀ t ∈ ts, Whole t :=
    List.forall_mem_cons.2 ⟨hword, List.forall_mem_singleton.2 hgroup⟩
  have htokens : segments.filterMap Segment.token = ts := rfl
  exact ⟨hts, htokens, rfl, tokens_of_layout hts htokens⟩

end Rewards.Token
