import Rewards.Proofs.Token.Rounds
import Rewards.Proofs.Token.Spacing

/-!
Gaps between tokens. A text that can be split is its tokens with commas and blanks around them, and
nothing else. A token that starts with a parenthesis is a whole group, unless a blank other than a
space stands between it and the comma before it.
-/

namespace Rewards.Token

open Text

/-- Nothing but commas and blanks. -/
def IsGap (g : Text) : Prop := ∀ c ∈ g, c = ',' ∨ isBlank c

/-- The first gap, the first token, the second gap, and so on. -/
def woven : List Text → List Text → Text
  | g :: gaps, t :: ts => g ++ (t ++ woven gaps ts)
  | gaps, _ => gaps.flatten

/-- The text is its tokens with gaps before, between and behind them; between two tokens stands a
comma. -/
structure Laid (text : Text) (ts gaps : List Text) : Prop where
  length : gaps.length = ts.length + 1
  text_eq : text = woven gaps ts
  gap : ∀ g ∈ gaps, IsGap g
  comma : ∀ g ∈ gaps.tail.dropLast, ',' ∈ g

theorem IsGap.append {g h : Text} (hg : IsGap g) (hh : IsGap h) : IsGap (g ++ h) :=
  List.forall_mem_append.2 ⟨hg, hh⟩

theorem isGap_of_blank {g : Text} (h : ∀ c ∈ g, isBlank c) : IsGap g := fun c hc => .inr (h c hc)

theorem isBlank_of_spaces {w : Text} (h : ∀ c ∈ w, c = ' ') : ∀ c ∈ w, isBlank c := by
  intro c hc
  rw [h c hc]
  decide

theorem comma_not_mem_of_blank {g : Text} (h : ∀ c ∈ g, isBlank c) : ',' ∉ g :=
  fun hm => absurd (h ',' hm) (by decide)

theorem woven_append (x g : Text) (gaps ts : List Text) :
    woven ((x ++ g) :: gaps) ts = x ++ woven (g :: gaps) ts := by
  cases ts with
  | nil => exact List.append_assoc x g gaps.flatten
  | cons t ts => exact List.append_assoc x g (t ++ woven gaps ts)

section Laid

variable {text x g : Text} {gaps ts : List Text}

theorem laid_nil (h : IsGap g) : Laid g [] [g] where
  length := rfl
  text_eq := (List.append_nil g).symm
  gap := List.forall_mem_singleton.2 h
  comma := by simp

/-- More of a gap before the text. -/
theorem Laid.append (h : Laid text ts (g :: gaps)) (hx : IsGap x) :
    Laid (x ++ text) ts ((x ++ g) :: gaps) where
  length := h.length
  text_eq := by rw [woven_append, ← h.text_eq]
  gap := by
    obtain ⟨hg, hgaps⟩ := List.forall_mem_cons.1 h.gap
    exact List.forall_mem_cons.2 ⟨hx.append hg, hgaps⟩
  comma := h.comma

/-- Another token before the text. -/
theorem Laid.token (h : Laid text ts (g :: gaps)) (hc : ts ≠ [] → ',' ∈ g) (t : Text) :
    Laid (t ++ text) (t :: ts) ([] :: g :: gaps) where
  length := by rw [List.length_cons, h.length, List.length_cons]
  text_eq := by rw [h.text_eq]; rfl
  gap := List.forall_mem_cons.2 ⟨by simp [IsGap], h.gap⟩
  comma := by
    have hl := h.length
    cases gaps with
    | nil => simp
    | cons g' gaps =>
      refine List.forall_mem_cons.2 ⟨hc ?_, h.comma⟩
      rintro rfl
      simp at hl

end Laid

/-- A blank other than a space stands behind the last comma. -/
def Late (g : Text) : Prop := ∃ w, ',' :: w <:+ g ∧ ',' ∉ w ∧ ∃ c ∈ w, c ≠ ' '

/-- The token does not start with a closing parenthesis, and if it starts with an opening one then it
ends with the partner of that parenthesis. -/
def Sound (t : Text) : Prop := t.head? ≠ some ')' ∧ (t.head? = some '(' → Grouped t)

/-- A late token is all that stands before the next comma; any other is sound. -/
def Placed (g t : Text) : Prop := (Late g → ',' ∉ t) ∧ (¬Late g → Sound t)

section Late

variable {x w g t : Text}

/-- What stands before the last comma does not make a token late. -/
theorem late_append_comma : Late (x ++ ',' :: g) ↔ Late (',' :: g) := by
  constructor
  · rintro ⟨v, hs, hv, hc⟩
    obtain h | h := List.suffix_or_suffix_of_suffix hs (List.suffix_append x (',' :: g))
    · exact ⟨v, h, hv, hc⟩
    · obtain h | h := List.suffix_cons_iff.1 h
      · obtain ⟨-, rfl⟩ := List.cons_eq_cons.1 h
        exact ⟨g, List.suffix_rfl, hv, hc⟩
      · exact absurd (h.subset List.mem_cons_self) hv
  · rintro ⟨v, hs, hv, hc⟩
    exact ⟨v, hs.trans (List.suffix_append x _), hv, hc⟩

/-- Spaces do not make a token late. -/
theorem late_comma_spaces (hw : ∀ c ∈ w, c = ' ') : Late (',' :: (w ++ g)) ↔ Late (',' :: g) := by
  have hw' : ',' ∉ w := fun h => absurd (hw ',' h) (by decide)
  constructor
  · rintro ⟨v, hs, hv, c, hc, hne⟩
    obtain h | h := List.suffix_cons_iff.1 hs
    · obtain ⟨-, rfl⟩ := List.cons_eq_cons.1 h
      rw [List.mem_append] at hc
      rw [List.mem_append, not_or] at hv
      exact ⟨g, List.suffix_rfl, hv.2, c, hc.resolve_left fun h => hne (hw c h), hne⟩
    · -- The comma is not one of the spaces, and so it stands behind them.
      obtain ⟨p, hp⟩ := h
      obtain ⟨q, rfl, hq⟩ | ⟨q, rfl, hq⟩ := List.append_eq_append_iff.1 hp
      · cases q with
        | nil => exact ⟨v, hq ▸ List.suffix_cons _ _, hv, c, hc, hne⟩
        | cons d q =>
          obtain ⟨rfl, -⟩ := List.cons_eq_cons.1 hq
          exact absurd (by simp) hw'
      · exact ⟨v, ⟨',' :: q, by rw [hq]; rfl⟩, hv, c, hc, hne⟩
  · rintro ⟨v, hs, hv, c, hc, hne⟩
    obtain h | h := List.suffix_cons_iff.1 hs
    · obtain ⟨-, rfl⟩ := List.cons_eq_cons.1 h
      exact ⟨w ++ v, List.suffix_rfl, by simp [hw', hv], c, List.mem_append_right w hc, hne⟩
    · exact ⟨v, h.trans ((List.suffix_append w g).trans (List.suffix_cons _ _)), hv, c, hc, hne⟩

theorem not_late_of_not_mem (h : ',' ∉ g) : ¬Late g := fun ⟨_, hs, _⟩ =>
  h (hs.subset List.mem_cons_self)

/-- A late token that is not preceded by another comma. -/
theorem late_comma_iff (h : ',' ∉ g) : Late (',' :: g) ↔ ∃ c ∈ g, c ≠ ' ' := by
  constructor
  · rintro ⟨v, hs, -, hc⟩
    obtain h' | h' := List.suffix_cons_iff.1 hs
    · obtain ⟨-, rfl⟩ := List.cons_eq_cons.1 h'
      exact hc
    · exact absurd (h'.subset List.mem_cons_self) h
  · exact fun hc => ⟨g, List.suffix_rfl, h, hc⟩

end Late

/-- A comma and spaces behind it. -/
def Spacer (m : Text) : Prop := ∃ r w, m = r ++ ',' :: w ∧ ∀ c ∈ w, c = ' '

theorem Spacer.append {m : Text} (h : Spacer m) (l : Text) : Spacer (l ++ m) := by
  obtain ⟨r, w, rfl, hw⟩ := h
  exact ⟨l ++ r, w, (List.append_assoc l r _).symm, hw⟩

theorem Spacer.comma {m : Text} (h : Spacer m) : ',' ∈ m := by
  obtain ⟨r, w, rfl, -⟩ := h
  simp

theorem Spacer.late_append_iff {m : Text} (h : Spacer m) (g : Text) :
    Late (m ++ g) ↔ Late (',' :: g) := by
  obtain ⟨r, w, rfl, hw⟩ := h
  rw [List.append_assoc, List.cons_append, late_append_comma, late_comma_spaces hw]

/-- A text is its segment with blanks before it and a gap behind it, which ends at a comma and spaces if
anything is left. -/
theorem exists_segment (s : Text) : ∃ l m, s = l ++ (segment s ++ (m ++ afterComma s)) ∧
    (∀ c ∈ l, isBlank c) ∧ IsGap m ∧ (afterComma s ≠ [] → Spacer m) := by
  obtain ⟨l, r, hs, hl, hr⟩ := exists_trim (cut ',' s).1
  unfold segment afterComma
  obtain ⟨-, h⟩ | ⟨a, b, rfl, -, h⟩ := cut_cases ',' s
  · rw [h] at hs ⊢
    refine ⟨l, r, ?_, hl, isGap_of_blank hr, fun hne => absurd rfl hne⟩
    rw [Option.getD_none, List.dropWhile_nil, List.append_nil]
    exact hs
  · rw [h] at hs ⊢
    have hw : ∀ c ∈ b.takeWhile (· = ' '), c = ' ' := fun c hc => by
      simpa using List.mem_takeWhile_imp hc
    refine ⟨l, r ++ ',' :: b.takeWhile (· = ' '), ?_, hl, ?_, fun _ => ⟨r, _, rfl, hw⟩⟩
    · change a = l ++ (trim a ++ r) at hs
      rw [Option.getD_some, List.append_assoc, List.cons_append, List.takeWhile_append_dropWhile]
      conv_lhs => rw [hs]
      simp
    · refine (isGap_of_blank hr).append (List.forall_mem_cons.2 ⟨.inl rfl, ?_⟩)
      exact isGap_of_blank (isBlank_of_spaces hw)

theorem comma_not_mem_segment (s : Text) : ',' ∉ segment s := by
  intro h
  obtain ⟨hs, hc⟩ | ⟨a, b, -, ha, hc⟩ := cut_cases ',' s
  · rw [segment, hc] at h
    exact hs (mem_of_mem_trim h)
  · rw [segment, hc] at h
    exact ha (mem_of_mem_trim h)

theorem head?_afterComma (s : Text) : ∀ c ∈ (afterComma s).head?, c ≠ ' ' := by
  intro c hc
  have h := List.head?_dropWhile_not (· = ' ') ((cut ',' s).2.getD [])
  rw [afterComma] at hc
  rw [hc] at h
  simpa using h

theorem Splits.ne_nil {s : Text} {ts : List Text} (h : Splits s ts) (hts : ts ≠ []) : s ≠ [] := by
  rintro rfl
  cases h
  exact hts rfl

theorem placed_group {s body after : Text} (h : closing 1 s = some (body, after)) :
    Placed [','] ('(' :: body) := by
  obtain ⟨b, rfl, hb⟩ := nesting_of_closing h
  refine ⟨fun hl => ?_, fun _ => ⟨by simp, fun _ => ⟨b, rfl, hb⟩⟩⟩
  obtain ⟨c, hc, -⟩ := (late_comma_iff (List.not_mem_nil)).1 hl
  exact absurd hc List.not_mem_nil

/-- A segment is late, or it starts where the rest of the text starts. -/
theorem placed_segment {c : Char} {s l t : Text} (hc : isParen c = false) (h0 : c ≠ ' ')
    (hl : ∀ c ∈ l, isBlank c) (ht : ',' ∉ t) (h : ∃ r, c :: s = l ++ (t ++ r)) :
    Placed (',' :: l) t := by
  refine ⟨fun _ => ht, fun hlate => ?_⟩
  rw [late_comma_iff (comma_not_mem_of_blank hl)] at hlate
  obtain ⟨r, h⟩ := h
  cases l with
  | nil =>
    have hhead : ∀ d, t.head? = some d → isParen d = false := by
      intro d hd
      obtain ⟨u, rfl⟩ := List.head?_eq_some_iff.1 hd
      obtain ⟨rfl, -⟩ := List.cons_eq_cons.1 h
      exact hc
    exact ⟨fun hd => absurd (hhead _ hd) (by decide), fun hd => absurd (hhead _ hd) (by decide)⟩
  | cons d l =>
    obtain ⟨rfl, -⟩ := List.cons_eq_cons.1 h
    exact absurd ⟨c, List.mem_cons_self, h0⟩ hlate

/-- Whether the first token is late depends on the gap from the last comma on. -/
theorem forall_placed_of_spacer {m g : Text} {gaps ts : List Text} (hm : ts ≠ [] → Spacer m)
    (h : ∀ p ∈ ((',' :: g) :: gaps).zip ts, Placed p.1 p.2) :
    ∀ p ∈ ((m ++ g) :: gaps).zip ts, Placed p.1 p.2 := by
  cases ts with
  | nil => simp
  | cons t ts =>
    rw [List.zip_cons_cons, List.forall_mem_cons] at h ⊢
    refine ⟨?_, h.2⟩
    unfold Placed
    rw [(hm (List.cons_ne_nil t ts)).late_append_iff]
    exact h.1

/-- The gaps of a text that does not start with a space; behind the text stand further blanks. -/
theorem exists_gaps {whole rest x : Text} {ts : List Text} (h : split whole rest = .ok ts)
    (hx : ∀ c ∈ x, isBlank c) (h0 : ∀ c ∈ rest.head?, c ≠ ' ') :
    ∃ g gaps, Laid (rest ++ x) ts (g :: gaps) ∧
      ∀ p ∈ ((',' :: g) :: gaps).zip ts, Placed p.1 p.2 := by
  rw [split_eq_ok_iff] at h
  induction h with
  | nil => exact ⟨x, [], laid_nil (isGap_of_blank hx), by simp⟩
  | @group s body after us hc hs hu ih =>
    obtain ⟨g, gaps, hlaid, hplaced⟩ := ih (head?_afterComma after)
    obtain ⟨l, m, he, hl, hm, hsep⟩ := exists_segment after
    rw [hs, List.nil_append, ← List.append_assoc] at he
    have hsep : us ≠ [] → Spacer (l ++ m) := fun hne => (hsep (hu.ne_nil hne)).append l
    refine ⟨[], (l ++ m ++ g) :: gaps, ?_, ?_⟩
    · have htoken := (hlaid.append ((isGap_of_blank hl).append hm)).token
        (fun hne => List.mem_append_left g (hsep hne).comma) ('(' :: body)
      have hs : s = body ++ (l ++ m ++ afterComma after) := by
        rw [← he]
        exact (closing_append hc).symm
      rw [hs]
      simpa using htoken
    · rw [List.zip_cons_cons, List.forall_mem_cons]
      exact ⟨placed_group hc, forall_placed_of_spacer hsep hplaced⟩
  | @skip c s us _ hs hu ih =>
    obtain ⟨g, gaps, hlaid, hplaced⟩ := ih (head?_afterComma (c :: s))
    obtain ⟨l, m, he, hl, hm, hsep⟩ := exists_segment (c :: s)
    rw [hs, List.nil_append, ← List.append_assoc] at he
    refine ⟨l ++ m ++ g, gaps, ?_, ?_⟩
    · have hmore := hlaid.append ((isGap_of_blank hl).append hm)
      rwa [← List.append_assoc, ← he] at hmore
    · exact forall_placed_of_spacer (m := ',' :: (l ++ m))
        (fun hne => (hsep (hu.ne_nil hne)).append (',' :: l)) hplaced
  | @segment c s us hc hs hu ih =>
    obtain ⟨g, gaps, hlaid, hplaced⟩ := ih (head?_afterComma (c :: s))
    obtain ⟨l, m, he, hl, hm, hsep⟩ := exists_segment (c :: s)
    have hsep : us ≠ [] → Spacer m := fun hne => hsep (hu.ne_nil hne)
    refine ⟨l, (m ++ g) :: gaps, ?_, ?_⟩
    · have htoken := ((hlaid.append hm).token
        (fun hne => List.mem_append_left g (hsep hne).comma) (segment (c :: s))).append
        (isGap_of_blank hl)
      rwa [List.append_nil, ← List.append_assoc m, ← List.append_assoc (segment (c :: s)),
        ← List.append_assoc l, ← he] at htoken
    · rw [List.zip_cons_cons, List.forall_mem_cons]
      exact ⟨placed_segment hc (h0 c rfl) hl (comma_not_mem_segment _) ⟨_, he⟩,
        forall_placed_of_spacer hsep hplaced⟩

theorem late_append_iff_of_mem {x g : Text} (h : ',' ∈ g) : Late (x ++ g) ↔ Late g := by
  obtain ⟨a, b, rfl⟩ := List.append_of_mem h
  rw [← List.append_assoc, late_append_comma, late_append_comma]

/-- The gaps of a text, each placing the token behind it. -/
theorem exists_gaps_of_tokens {text : Text} {ts : List Text} (h : tokens text = .ok ts) :
    ∃ gaps, Laid text ts gaps ∧ ∀ p ∈ gaps.zip ts, Placed p.1 p.2 := by
  obtain ⟨l, r, htext, hl, hr⟩ := exists_trim text
  have htrim := trimmed_trim text
  have h0 : ∀ c ∈ (trim text).head?, c ≠ ' ' := by
    rintro c hc rfl
    exact absurd (htrim.1 ' ' hc) (by decide)
  obtain ⟨g, gaps, hlaid, hplaced⟩ := exists_gaps h hr h0
  have hfirst := hlaid.append (isGap_of_blank hl)
  rw [← htext] at hfirst
  refine ⟨_, hfirst, ?_⟩
  cases ts with
  | nil => simp
  | cons t ts =>
    rw [List.zip_cons_cons, List.forall_mem_cons] at hplaced ⊢
    refine ⟨?_, hplaced.2⟩
    have hp := hplaced.1
    unfold Placed at hp ⊢
    by_cases hg : ',' ∈ g
    · -- Without the blanks that trimming takes away the first gap is the same from its last comma on.
      rw [show ',' :: g = [','] ++ g from rfl, late_append_iff_of_mem hg] at hp
      rwa [late_append_iff_of_mem hg]
    · -- The text starts with the first token.
      have hne : trim text ≠ [] := (split_eq_ok_iff.1 h).ne_nil (List.cons_ne_nil t ts)
      obtain rfl : g = [] := by
        cases g with
        | nil => rfl
        | cons c g =>
          have hc : (trim text).head? = some c := by
            rw [← List.head?_append_of_ne_nil (trim text) hne, hlaid.text_eq]
            rfl
          obtain rfl | hb := hlaid.gap (c :: g) List.mem_cons_self c List.mem_cons_self
          · exact absurd List.mem_cons_self hg
          · exact absurd hb (by rw [htrim.1 c hc]; exact Bool.false_ne_true)
      have hl' : ',' ∉ l ++ [] := by simpa using comma_not_mem_of_blank hl
      refine ⟨fun hlate => absurd hlate (not_late_of_not_mem hl'), fun _ => hp.2 fun hlate => ?_⟩
      obtain ⟨c, hc, -⟩ := (late_comma_iff List.not_mem_nil).1 hlate
      exact List.not_mem_nil hc

/-- Splitting loses and invents nothing. The scan of every text comes to an end, in no more rounds than
the text has characters; a text that can be split is its tokens with commas and blanks before, between
and behind them, and no token is empty or has a blank at its ends. -/
theorem tokens_with_gaps (text : Text) :
    (∃ n ≤ text.length, Scan (trim text) n (trim text) (tokens text) ∧
      ∀ m r, Scan (trim text) m (trim text) r → m = n ∧ r = tokens text) ∧
    ∀ ts, tokens text = .ok ts → (∃ gaps, Laid text ts gaps) ∧ ∀ t ∈ ts, t ≠ [] ∧ Trimmed t := by
  constructor
  · obtain ⟨n, hn, hs⟩ := exists_scan (trim text) (trim text)
    exact ⟨n, hn.trans (trim_length_le text), hs, fun m r h => h.unique hs⟩
  · intro ts h
    obtain ⟨gaps, hlaid, -⟩ := exists_gaps_of_tokens h
    exact ⟨⟨gaps, hlaid⟩, trimmed_of_mem_split h⟩

/-- Groups, empty segments and line ends among the tokens. -/
theorem tokens_with_gaps_lines :
    let text : Text := " ,a b\t, (c, (d)) ,,\n$5; ,"
    let ts : List Text := ["a b", "(c, (d))", "$5;"]
    tokens text = .ok ts ∧ (∃ n ≤ 25, Scan (trim text) n (trim text) (.ok ts)) ∧
      ∃ gaps, Laid text ts gaps := by
  intro text ts
  have h : tokens text = .ok ts := by decide +kernel
  obtain ⟨⟨n, hn, hs, -⟩, hgaps⟩ := tokens_with_gaps text
  rw [h] at hs
  exact ⟨h, ⟨n, hn, hs⟩, (hgaps ts h).1⟩

end Rewards.Token
