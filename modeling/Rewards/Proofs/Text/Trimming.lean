import Mathlib.Data.List.Basic
import Mathlib.Data.List.TakeWhile
import Mathlib.Tactic.Common
import Rewards.Text.Blank

/-!
Trimming. It takes away the blanks at both ends of a text and leaves a text without any there.
-/

namespace Rewards.Text

/-- No blank stands at either end. -/
def Trimmed (s : Text) : Prop :=
  (∀ c ∈ s.head?, isBlank c = false) ∧ ∀ c ∈ s.getLast?, isBlank c = false

instance (s : Text) : Decidable (Trimmed s) := inferInstanceAs (Decidable (_ ∧ _))

theorem trimmed_nil : Trimmed [] := by simp [Trimmed]

theorem trimmed_of_forall {s : Text} (h : ∀ c ∈ s, isBlank c = false) : Trimmed s :=
  ⟨fun c hc => h c (List.mem_of_mem_head? hc), fun c hc => h c (List.mem_of_mem_getLast? hc)⟩

theorem Trimmed.append {s t : Text} (hs : Trimmed s) (hs0 : s ≠ []) (ht : Trimmed t) (ht0 : t ≠ []) :
    ∀ m, Trimmed (s ++ m ++ t) := by
  intro m
  refine ⟨fun c hc => hs.1 c ?_, fun c hc => ht.2 c ?_⟩
  · rwa [List.append_assoc, List.head?_append_of_ne_nil _ hs0] at hc
  · rwa [List.getLast?_append_of_ne_nil _ ht0] at hc

theorem dropWhile_eq_self {p : Char → Bool} {s : Text} (h : ∀ c ∈ s.head?, p c = false) :
    s.dropWhile p = s := by
  cases s with
  | nil => rfl
  | cons c s => rw [List.dropWhile_cons, if_neg (by simp [h c rfl])]

theorem dropTail_append {p : Char → Bool} {t r : Text} (hr : ∀ c ∈ r, p c)
    (ht : ∀ c ∈ t.getLast?, p c = false) : dropTail p (t ++ r) = t := by
  rw [dropTail, List.reverse_append, List.dropWhile_append_of_pos (by simpa using hr),
    dropWhile_eq_self (by simpa using ht), List.reverse_reverse]

theorem exists_dropTail (p : Char → Bool) (s : Text) :
    ∃ r, s = dropTail p s ++ r ∧ ∀ c ∈ r, p c := by
  refine ⟨(s.reverse.takeWhile p).reverse, ?_, fun c hc => ?_⟩
  · rw [dropTail, ← List.reverse_append, List.takeWhile_append_dropWhile, List.reverse_reverse]
  · exact List.mem_takeWhile_imp (List.mem_reverse.1 hc)

theorem getLast?_dropTail (p : Char → Bool) (s : Text) :
    ∀ c ∈ (dropTail p s).getLast?, p c = false := by
  intro c hc
  rw [dropTail, List.getLast?_reverse] at hc
  have h := List.head?_dropWhile_not p s.reverse
  rw [hc] at h
  simpa using h

/-- Blanks around a trimmed text are what trimming takes away. -/
theorem trim_append {l t r : Text} (hl : ∀ c ∈ l, isBlank c) (ht : Trimmed t)
    (hr : ∀ c ∈ r, isBlank c) : trim (l ++ (t ++ r)) = t := by
  rw [trim, List.dropWhile_append_of_pos hl]
  obtain rfl | hne := eq_or_ne t []
  · rw [List.nil_append, List.dropWhile_eq_nil_iff.2 hr]
    rfl
  · rw [dropWhile_eq_self, dropTail_append hr ht.2]
    rw [List.head?_append_of_ne_nil _ hne]
    exact ht.1

theorem trim_of_trimmed {s : Text} (h : Trimmed s) : trim s = s := by
  have := trim_append (l := []) (r := []) (by simp) h (by simp)
  rwa [List.append_nil, List.nil_append] at this

theorem exists_trim (s : Text) : ∃ l r, s = l ++ (trim s ++ r) ∧ (∀ c ∈ l, isBlank c) ∧
    ∀ c ∈ r, isBlank c := by
  obtain ⟨r, hr, hb⟩ := exists_dropTail isBlank (s.dropWhile isBlank)
  refine ⟨s.takeWhile isBlank, r, ?_, fun c => List.mem_takeWhile_imp, hb⟩
  rw [trim, ← hr, List.takeWhile_append_dropWhile]

theorem trimmed_trim (s : Text) : Trimmed (trim s) := by
  refine ⟨fun c hc => ?_, getLast?_dropTail _ _⟩
  obtain ⟨r, hr, -⟩ := exists_dropTail isBlank (s.dropWhile isBlank)
  have h := List.head?_dropWhile_not isBlank s
  rw [trim] at hc
  rw [hr, List.head?_append, hc] at h
  simpa using h

@[simp] theorem trim_trim (s : Text) : trim (trim s) = trim s := trim_of_trimmed (trimmed_trim s)

theorem trim_blank_append {l : Text} (hl : ∀ c ∈ l, isBlank c) (s : Text) :
    trim (l ++ s) = trim s := by
  rw [trim, List.dropWhile_append_of_pos hl, trim]

theorem trim_append_blank {s r : Text} (hr : ∀ c ∈ r, isBlank c) : trim (s ++ r) = trim s := by
  obtain ⟨l, r', hs, hl, hr'⟩ := exists_trim s
  conv_lhs => rw [hs, List.append_assoc, List.append_assoc]
  exact trim_append hl (trimmed_trim s) (List.forall_mem_append.2 ⟨hr', hr⟩)

theorem mem_of_mem_trim {s : Text} {c : Char} (h : c ∈ trim s) : c ∈ s := by
  obtain ⟨l, r, hs, -, -⟩ := exists_trim s
  rw [hs]
  exact List.mem_append_right _ (List.mem_append_left _ h)

theorem mem_trim {s : Text} {c : Char} (hc : isBlank c = false) (h : c ∈ s) : c ∈ trim s := by
  obtain ⟨l, r, hs, hl, hr⟩ := exists_trim s
  rw [hs, List.mem_append, List.mem_append] at h
  obtain h | h | h := h
  · exact absurd (hl c h) (by simp [hc])
  · exact h
  · exact absurd (hr c h) (by simp [hc])

/-- A last character that is not blank stays the last one. -/
theorem getLast?_trim {s : Text} {c : Char} (h : s.getLast? = some c) (hc : isBlank c = false) :
    (trim s).getLast? = some c := by
  obtain ⟨l, r, hs, -, hr⟩ := exists_trim s
  have hne := List.ne_nil_of_mem (mem_trim hc (List.mem_of_getLast? h))
  obtain rfl | hr0 := eq_or_ne r []
  · rw [hs, List.append_nil, List.getLast?_append_of_ne_nil _ hne] at h
    exact h
  · rw [hs, ← List.append_assoc, List.getLast?_append_of_ne_nil _ hr0] at h
    exact absurd (hr c (List.mem_of_getLast? h)) (by simp [hc])

/-- Characters that are not blank survive trimming. -/
theorem filter_trim {p : Char → Bool} (hp : ∀ c, isBlank c → p c = false) (s : Text) :
    (trim s).filter p = s.filter p := by
  obtain ⟨l, r, hs, hl, hr⟩ := exists_trim s
  have hl' : l.filter p = [] := List.filter_eq_nil_iff.2 fun c hc => by simp [hp c (hl c hc)]
  have hr' : r.filter p = [] := List.filter_eq_nil_iff.2 fun c hc => by simp [hp c (hr c hc)]
  conv_rhs => rw [hs, List.filter_append, List.filter_append, hl', hr', List.nil_append,
    List.append_nil]

end Rewards.Text
