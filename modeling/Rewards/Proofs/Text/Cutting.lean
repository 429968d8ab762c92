import Rewards.Proofs.Text.Trimming

/-!
Cutting texts up. Cutting at a separator, and splitting into pieces or words, undo putting the
parts together.
-/

namespace Rewards.Text

theorem cut_append {sep : Char} {a : Text} (h : sep ∉ a) (b : Text) :
    cut sep (a ++ sep :: b) = (a, some b) := by
  induction a with
  | nil => simp [cut]
  | cons c a ih =>
    rw [List.mem_cons, not_or] at h
    rw [List.cons_append, cut, if_neg (Ne.symm h.1), ih h.2]

theorem cut_append_fst {sep : Char} {a : Text} (h : sep ∉ a) (b : Text) :
    (cut sep (a ++ b)).1 = a ++ (cut sep b).1 := by
  induction a with
  | nil => rfl
  | cons c a ih =>
    rw [List.mem_cons, not_or] at h
    rw [List.cons_append, cut, if_neg (Ne.symm h.1), List.cons_append, ← ih h.2]

/-- A text is cut at its first separator, or not at all. -/
theorem cut_cases (sep : Char) (s : Text) :
    (sep ∉ s ∧ cut sep s = (s, none)) ∨
      ∃ a b, s = a ++ sep :: b ∧ sep ∉ a ∧ cut sep s = (a, some b) := by
  by_cases h : sep ∈ s
  · obtain ⟨a, b, rfl, ha⟩ := List.eq_append_cons_of_mem h
    exact .inr ⟨a, b, rfl, ha, cut_append ha b⟩
  · exact .inl ⟨h, cut_not_mem h⟩

theorem pieces_of_not_mem {sep : Char} {s : Text} (h : sep ∉ s) : pieces sep s = [s] := by
  induction s with
  | nil => rfl
  | cons c s ih =>
    rw [List.mem_cons, not_or] at h
    rw [pieces, ih h.2, beq_false_of_ne (Ne.symm h.1)]

theorem pieces_append {sep : Char} {a : Text} (h : sep ∉ a) (b : Text) :
    pieces sep (a ++ sep :: b) = a :: pieces sep b := by
  induction a with
  | nil => rw [List.nil_append, pieces, beq_self_eq_true]
  | cons c a ih =>
    rw [List.mem_cons, not_or] at h
    rw [List.cons_append, pieces, ih h.2, beq_false_of_ne (Ne.symm h.1)]

theorem joined_cons {sep t : Text} {ts : List Text} (h : ts ≠ []) :
    joined sep (t :: ts) = t ++ sep ++ joined sep ts := by
  cases ts with
  | nil => exact absurd rfl h
  | cons u us => rfl

theorem joined_concat {sep : Text} {ts : List Text} (h : ts ≠ []) (t : Text) :
    joined sep (ts ++ [t]) = joined sep ts ++ sep ++ t := by
  induction ts with
  | nil => exact absurd rfl h
  | cons u us ih =>
    obtain rfl | hne := eq_or_ne us []
    · rfl
    · rw [List.cons_append, joined_cons (by simp), joined_cons hne, ih hne]
      simp only [List.append_assoc]

theorem forall_mem_joined {p : Char → Prop} {sep : Text} (hsep : ∀ c ∈ sep, p c) {ts : List Text}
    (h : ∀ t ∈ ts, ∀ c ∈ t, p c) : ∀ c ∈ joined sep ts, p c := by
  induction ts with
  | nil => simp [joined]
  | cons t ts ih =>
    obtain ⟨ht, hts⟩ := List.forall_mem_cons.1 h
    obtain rfl | h0 := eq_or_ne ts []
    · exact ht
    · rw [joined_cons h0]
      exact List.forall_mem_append.2 ⟨List.forall_mem_append.2 ⟨ht, hsep⟩, ih hts⟩

theorem joined_ne_nil {sep : Text} {ts : List Text} (h : ts ≠ []) (hts : ∀ t ∈ ts, t ≠ []) :
    joined sep ts ≠ [] := by
  obtain ⟨t, us, rfl⟩ := List.exists_cons_of_ne_nil h
  have ht := hts t (by simp)
  obtain rfl | h0 := eq_or_ne us []
  · exact ht
  · rw [joined_cons h0]
    simp [ht]

theorem trimmed_joined {sep : Text} {ts : List Text} (h : ∀ t ∈ ts, t ≠ [] ∧ Trimmed t) :
    Trimmed (joined sep ts) := by
  induction ts with
  | nil => exact trimmed_nil
  | cons t ts ih =>
    obtain ⟨ht, hts⟩ := List.forall_mem_cons.1 h
    obtain rfl | h0 := eq_or_ne ts []
    · exact ht.2
    · rw [joined_cons h0]
      exact ht.2.append ht.1 (ih hts) (joined_ne_nil h0 fun u hu => (hts u hu).1) sep

theorem pieces_joined {sep : Char} {ts : List Text} (h : ∀ t ∈ ts, sep ∉ t) (hne : ts ≠ []) :
    pieces sep (joined [sep] ts) = ts := by
  induction ts with
  | nil => exact absurd rfl hne
  | cons t ts ih =>
    obtain ⟨ht, hts⟩ := List.forall_mem_cons.1 h
    obtain rfl | hne := eq_or_ne ts []
    · exact pieces_of_not_mem ht
    · rw [joined_cons hne, List.append_assoc, List.singleton_append, pieces_append ht, ih hts hne]

theorem flatten_pieces (sep : Char) (s : Text) :
    (pieces sep s).flatten = s.filter (· != sep) := by
  induction s with
  | nil => rfl
  | cons c s ih =>
    by_cases h : c = sep
    · simp [pieces, h, ih]
    · have hc : (c == sep) = false := beq_false_of_ne h
      rw [List.filter_cons_of_pos (by simp [h]), ← ih, pieces, hc]
      split <;> simp_all

/-- Every character but the separator is in a piece. -/
theorem exists_mem_pieces {sep c : Char} {s : Text} (hc : c ≠ sep) (h : c ∈ s) :
    ∃ p ∈ pieces sep s, c ∈ p := by
  have hf : c ∈ s.filter (· != sep) := List.mem_filter.2 ⟨h, by simpa using hc⟩
  rw [← flatten_pieces] at hf
  exact List.mem_flatten.1 hf

theorem map_trim_pieces_append_left {sep : Char} {l : Text} (hsep : isBlank sep = false)
    (hl : ∀ c ∈ l, isBlank c) (s : Text) :
    (pieces sep (l ++ s)).map trim = (pieces sep s).map trim := by
  have hl' : sep ∉ l := fun h => by simp [hl sep h] at hsep
  obtain ⟨hs, -⟩ | ⟨a, b, rfl, ha, -⟩ := cut_cases sep s
  · rw [pieces_of_not_mem hs, pieces_of_not_mem (by simp [hl', hs])]
    simp [trim_blank_append hl]
  · rw [← List.append_assoc, pieces_append (by simp [hl', ha]), pieces_append ha]
    simp [trim_blank_append hl]

theorem map_trim_pieces_append_right {sep : Char} {r : Text} (hsep : isBlank sep = false)
    (hr : ∀ c ∈ r, isBlank c) (s : Text) :
    (pieces sep (s ++ r)).map trim = (pieces sep s).map trim := by
  have hr' : sep ∉ r := fun h => by simp [hr sep h] at hsep
  induction hn : s.length using Nat.strong_induction_on generalizing s with
  | _ n ih =>
    obtain ⟨hs, -⟩ | ⟨a, b, rfl, ha, -⟩ := cut_cases sep s
    · rw [pieces_of_not_mem hs, pieces_of_not_mem (by simp [hr', hs])]
      simp [trim_append_blank hr]
    · have := ih b.length (by simp at hn; omega) b rfl
      rw [List.append_assoc, List.cons_append, pieces_append ha, pieces_append ha, List.map_cons,
        List.map_cons, this]

/-- Blanks around a text are around its pieces. -/
theorem map_trim_pieces_trim {sep : Char} (hsep : isBlank sep = false) (s : Text) :
    (pieces sep (trim s)).map trim = (pieces sep s).map trim := by
  obtain ⟨l, r, hs, hl, hr⟩ := exists_trim s
  conv_rhs => rw [hs, map_trim_pieces_append_left hsep hl, map_trim_pieces_append_right hsep hr]

/-- What stands in front of the first space stays there when the text is trimmed. -/
theorem cut_trim {a : Text} (ha : ∀ c ∈ a, isBlank c = false) (hne : a ≠ []) (b : Text) :
    ∃ o, cut ' ' (trim (a ++ ' ' :: b)) = (a, o) ∧ trim (o.getD []) = trim b := by
  have hspace : ' ' ∉ a := fun h => absurd (ha ' ' h) (by decide)
  have hta := trimmed_of_forall ha
  by_cases hb : trim b = []
  · obtain ⟨l, r, hs, hl, hr⟩ := exists_trim b
    rw [hb, List.nil_append] at hs
    have hblank : ∀ c ∈ ' ' :: b, isBlank c :=
      List.forall_mem_cons.2 ⟨by decide, by rw [hs]; exact List.forall_mem_append.2 ⟨hl, hr⟩⟩
    rw [trim_append_blank hblank, trim_of_trimmed hta, cut_not_mem hspace]
    exact ⟨none, rfl, hb.symm⟩
  · obtain ⟨l, r, hs, hl, hr⟩ := exists_trim b
    have ht : a ++ ' ' :: b = (a ++ (' ' :: l) ++ trim b) ++ r := by
      conv_lhs => rw [hs]
      simp
    rw [ht, trim_append_blank hr, trim_of_trimmed (hta.append hne (trimmed_trim b) hb _),
      List.append_assoc, List.cons_append, cut_append hspace]
    exact ⟨_, rfl, by rw [Option.getD_some, trim_blank_append hl, trim_trim]⟩

theorem words_cons_of_isBlank {c : Char} (h : isBlank c) (s : Text) : words (c :: s) = words s := by
  cases s <;> simp [words, h]

theorem words_singleton {c : Char} (h : isBlank c = false) : words [c] = [[c]] := by
  simp [words, h]

theorem words_cons_before {c d : Char} (hc : isBlank c = false) (hd : isBlank d) (s : Text) :
    words (c :: d :: s) = [c] :: words (d :: s) := by
  rw [words, if_neg (by simp [hc]), if_pos hd]

theorem words_cons_cons {c d : Char} {s w : Text} {ws : List Text} (hc : isBlank c = false)
    (hd : isBlank d = false) (h : words (d :: s) = w :: ws) :
    words (c :: d :: s) = (c :: w) :: ws := by
  rw [words, if_neg (by simp [hc]), if_neg (by simp [hd]), h]

theorem words_append {w : Text} (hw : ∀ c ∈ w, isBlank c = false) (hne : w ≠ []) {s : Text}
    (hs : ∀ c ∈ s.head?, isBlank c) : words (w ++ s) = w :: words s := by
  induction w with
  | nil => exact absurd rfl hne
  | cons c w ih =>
    obtain ⟨hc, hw⟩ := List.forall_mem_cons.1 hw
    cases w with
    | nil =>
      cases s with
      | nil => exact words_singleton hc
      | cons d s => exact words_cons_before hc (hs d rfl) s
    | cons d w => exact words_cons_cons hc (hw d (by simp)) (ih hw (by simp))

theorem words_of_forall {w : Text} (hw : ∀ c ∈ w, isBlank c = false) (hne : w ≠ []) :
    words w = [w] := by
  have := words_append hw hne (s := []) (by simp)
  rwa [List.append_nil] at this

theorem words_append_space {w : Text} (hw : ∀ c ∈ w, isBlank c = false) (hne : w ≠ []) (s : Text) :
    words (w ++ ' ' :: s) = w :: words s := by
  rw [words_append hw hne (by simp; decide), words_cons_of_isBlank (by decide)]

theorem words_joined {ws : List Text} (h : ∀ w ∈ ws, w ≠ [] ∧ ∀ c ∈ w, isBlank c = false) :
    words (joined [' '] ws) = ws := by
  induction ws with
  | nil => rfl
  | cons w ws ih =>
    obtain ⟨⟨hne, hw⟩, hws⟩ := List.forall_mem_cons.1 h
    obtain rfl | h0 := eq_or_ne ws []
    · exact words_of_forall hw hne
    · rw [joined_cons h0, List.append_assoc, List.singleton_append, words_append_space hw hne,
        ih hws]

theorem words_ne_nil {c : Char} (hc : isBlank c = false) (s : Text) : words (c :: s) ≠ [] := by
  cases s with
  | nil => simp [words, hc]
  | cons d s =>
    rw [words, if_neg (by simp [hc])]
    split
    · exact List.cons_ne_nil _ _
    · split <;> exact List.cons_ne_nil _ _

theorem flatten_words (s : Text) : (words s).flatten = s.filter (!isBlank ·) := by
  induction s with
  | nil => rfl
  | cons c s ih =>
    cases hc : isBlank c with
    | true => rw [words_cons_of_isBlank hc, ih, List.filter_cons_of_neg (by simp [hc])]
    | false =>
      rw [List.filter_cons_of_pos (by simp [hc]), ← ih]
      match s with
      | [] => rw [words_singleton hc]; rfl
      | d :: s =>
        cases hd : isBlank d with
        | true => rw [words_cons_before hc hd]; rfl
        | false =>
          obtain ⟨w, ws, h⟩ := List.exists_cons_of_ne_nil (words_ne_nil hd s)
          rw [words_cons_cons hc hd h, h]
          rfl

theorem isBlank_of_mem_words {s w : Text} (hw : w ∈ words s) : ∀ c ∈ w, isBlank c = false := by
  intro c hc
  have := List.mem_flatten_of_mem hw hc
  rw [flatten_words, List.mem_filter] at this
  simpa using this.2

theorem trim_of_mem_words {s w : Text} (hw : w ∈ words s) : trim w = w :=
  trim_of_trimmed (trimmed_of_forall (isBlank_of_mem_words hw))

end Rewards.Text
