import Mathlib.Data.List.Pairwise
import Mathlib.Data.List.Perm.Basic

/-!
Changes of a state that may be refused. Changes are apart if neither has a say in what the other does.
Where that holds of every two, whether any of them is refused can be told before the first is made, and
their order does not matter. Changes are apart if they are so within one part of the state, or if they
are made to parts of it that are disjoint.
-/

namespace Rewards

/-- A change of a state that may be refused. -/
abbrev Attempt (σ : Type) := σ → Option σ

namespace Attempt

variable {σ τ υ : Type}

/-- A refused change leaves the state as it is. -/
def make (a : Attempt σ) (s : σ) : Bool × σ := ((a s).isSome, (a s).getD s)

/-- All changes in turn, also after one that is refused. -/
def makeEach : List (Attempt σ) → σ → Bool × σ
  | [], s => (true, s)
  | a :: as, s => ((a.make s).1 && (makeEach as (a.make s).2).1, (makeEach as (a.make s).2).2)

theorem makeEach_append (as bs : List (Attempt σ)) (s : σ) :
    makeEach (as ++ bs) s = ((makeEach as s).1 && (makeEach bs (makeEach as s).2).1,
      (makeEach bs (makeEach as s).2).2) := by
  induction as generalizing s with
  | nil => simp only [List.nil_append, makeEach, Bool.true_and]
  | cons a as ih => simp only [List.cons_append, makeEach, ih, Bool.and_assoc]

theorem makeEach_snd (as : List (Attempt σ)) (s : σ) :
    (makeEach as s).2 = as.foldl (fun s a => (a.make s).2) s := by
  induction as generalizing s with
  | nil => rfl
  | cons a as ih => exact ih _

/-- In the state both orders come to the same, and neither change is why the other is refused. -/
structure ApartAt (a b : Attempt σ) (s : σ) : Prop where
  comm : (a s).bind b = (b s).bind a
  both : (a s).isSome → (b s).isSome → ((a s).bind b).isSome

def Apart (a b : Attempt σ) : Prop := ∀ s, ApartAt a b s

variable {a b : Attempt σ}

theorem ApartAt.symm {s : σ} (h : ApartAt a b s) : ApartAt b a s where
  comm := h.comm.symm
  both hb ha := h.comm ▸ h.both ha hb

theorem Apart.symm (h : Apart a b) : Apart b a := fun s => (h s).symm

instance : Std.Symm (@Apart σ) := ⟨fun _ _ => Apart.symm⟩

theorem apart_refused (a : Attempt σ) : Apart a fun _ => none := fun s => ⟨by simp, by simp⟩

theorem Apart.isSome_make (h : Apart a b) (s : σ) : (b (a.make s).2).isSome = (b s).isSome := by
  have hcomm := (h s).comm
  have hboth := (h s).both
  cases ha : a s with
  | none => simp only [make, ha, Option.getD_none]
  | some t =>
    rw [ha, Option.bind_some] at hcomm hboth
    simp only [make, ha, Option.getD_some]
    cases hb : b s with
    | none => rw [hcomm, hb]; rfl
    | some u => exact hboth rfl (by rw [hb]; rfl)

theorem Apart.make_comm (h : Apart a b) (s : σ) :
    (b.make (a.make s).2).2 = (a.make (b.make s).2).2 := by
  have hcomm := (h s).comm
  have hboth := (h s).both
  cases ha : a s <;> cases hb : b s <;> rw [ha, hb] at hcomm hboth
  · simp only [make, ha, hb, Option.getD_none]
  · simp only [Option.bind_none, Option.bind_some] at hcomm
    simp only [make, ha, hb, ← hcomm, Option.getD_none, Option.getD_some]
  · simp only [Option.bind_none, Option.bind_some] at hcomm
    simp only [make, ha, hb, hcomm, Option.getD_none, Option.getD_some]
  · rename_i t u
    obtain ⟨v, hv⟩ := Option.isSome_iff_exists.1 (hboth rfl rfl)
    rw [Option.bind_some] at hv
    simp only [Option.bind_some, hv] at hcomm
    simp only [make, ha, hb, hv, ← hcomm, Option.getD_some]

section Each

variable {as bs : List (Attempt σ)}

/-- Changes that are apart are all made exactly if each could be made at the start. -/
theorem makeEach_fst (h : as.Pairwise Apart) (s : σ) :
    (makeEach as s).1 = as.all fun a => (a s).isSome := by
  induction as generalizing s with
  | nil => rfl
  | cons a as ih =>
    obtain ⟨ha, has⟩ := List.pairwise_cons.1 h
    have hkept : (as.all fun b => (b (a.make s).2).isSome) = as.all fun b => (b s).isSome := by
      rw [Bool.eq_iff_iff, List.all_eq_true, List.all_eq_true]
      exact forall₂_congr fun b hb => by rw [(ha b hb).isSome_make s]
    rw [List.all_cons, ← hkept, ← ih has]
    rfl

/-- The order of changes that are apart does not matter. -/
theorem makeEach_perm (h : as.Pairwise Apart) (hp : bs.Perm as) (s : σ) :
    makeEach bs s = makeEach as s := by
  have hbs : bs.Pairwise Apart := (hp.pairwise_iff Apart.symm).2 h
  have hanswer : (makeEach bs s).1 = (makeEach as s).1 := by
    rw [makeEach_fst h, makeEach_fst hbs]
    exact hp.all_eq
  have hcomm : ∀ a ∈ bs, ∀ b ∈ bs, ∀ s, (b.make (a.make s).2).2 = (a.make (b.make s).2).2 := by
    intro a ha b hb s
    by_cases hab : a = b
    · rw [hab]
    · exact (hbs.forall ha hb hab).make_comm s
  have hstate : (makeEach bs s).2 = (makeEach as s).2 := by
    rw [makeEach_snd, makeEach_snd]
    exact hp.foldl_eq' hcomm s
  exact Prod.ext hanswer hstate

end Each

end Attempt

/-- A part of a state that can be replaced where the state has it. -/
structure Portion (σ τ : Type) where
  get? : σ → Option τ
  set : τ → σ → σ
  get?_set : ∀ s t, (get? s).isSome → get? (set t s) = some t
  set_set : ∀ s t u, (get? s).isSome → set u (set t s) = set u s

namespace Portion

variable {σ τ υ : Type} {p : Portion σ τ} {q : Portion σ υ}

/-- A change of the part; it is refused where the part is missing. -/
def attempt (p : Portion σ τ) (a : Attempt τ) : Attempt σ :=
  fun s => (p.get? s).bind fun t => (a t).map (p.set · s)

theorem attempt_of_none {s : σ} (h : p.get? s = none) (a : Attempt τ) : p.attempt a s = none := by
  rw [attempt, h]
  rfl

theorem attempt_of_some {s : σ} {t : τ} (h : p.get? s = some t) (a : Attempt τ) :
    p.attempt a s = (a t).map (p.set · s) := by
  rw [attempt, h]
  rfl

theorem attempt_bind {s : σ} {t : τ} (h : p.get? s = some t) (a b : Attempt τ) :
    (p.attempt a s).bind (p.attempt b) = ((a t).bind b).map (p.set · s) := by
  have hs : (p.get? s).isSome := by rw [h]; rfl
  rw [attempt_of_some h, Option.bind_map, Option.map_bind]
  congr 1
  funext u
  rw [Function.comp_apply, attempt_of_some (p.get?_set s u hs)]
  simp only [p.set_set s u _ hs, Function.comp_apply]

theorem apart_attempt {a b : Attempt τ} (h : Attempt.Apart a b) (p : Portion σ τ) :
    Attempt.Apart (p.attempt a) (p.attempt b) := by
  intro s
  cases hs : p.get? s with
  | none =>
    have hnone (a : Attempt τ) : p.attempt a s = none := attempt_of_none hs a
    exact ⟨by rw [hnone, hnone]; rfl, by simp [hnone]⟩
  | some t =>
    constructor
    · rw [attempt_bind hs, attempt_bind hs, (h t).comm]
    · rw [attempt_bind hs, attempt_of_some hs, attempt_of_some hs]
      simp only [Option.isSome_map]
      exact (h t).both

/-- Replacing one part keeps the other. -/
structure Disjoint (p : Portion σ τ) (q : Portion σ υ) : Prop where
  left : ∀ s u, p.get? (q.set u s) = p.get? s
  right : ∀ s t, q.get? (p.set t s) = q.get? s
  comm : ∀ s t u, p.set t (q.set u s) = q.set u (p.set t s)

theorem Disjoint.apart (h : p.Disjoint q) (a : Attempt τ) (b : Attempt υ) :
    Attempt.Apart (p.attempt a) (q.attempt b) := by
  intro s
  have hfirst : (p.attempt a s).bind (q.attempt b) = (p.get? s).bind fun t =>
      (a t).bind fun t' => (q.get? s).bind fun u => (b u).map fun u' => q.set u' (p.set t' s) := by
    simp only [attempt, Option.bind_assoc, Option.bind_map, Function.comp_def, h.right]
  have hsecond : (q.attempt b s).bind (p.attempt a) = (q.get? s).bind fun u =>
      (b u).bind fun u' => (p.get? s).bind fun t => (a t).map fun t' => q.set u' (p.set t' s) := by
    simp only [attempt, Option.bind_assoc, Option.bind_map, Function.comp_def, h.left, h.comm]
  constructor
  · rw [hfirst, hsecond]
    cases p.get? s with
    | none => cases q.get? s <;> simp
    | some t => cases q.get? s with
      | none => simp
      | some u => cases ha : a t <;> cases hb : b u <;> simp [ha, hb]
  · rw [hfirst, attempt, attempt]
    cases p.get? s with
    | none => simp
    | some t => cases q.get? s with
      | none => simp
      | some u => cases ha : a t <;> cases hb : b u <;> simp [ha, hb]

end Portion

namespace Attempt

variable {α : Type} {p q : α → Bool}

/-- Removes the elements that are meant; it is refused if there is none. -/
def dropAll (p : α → Bool) : Attempt (List α) :=
  fun l => if l.any p then some (l.filter (! p ·)) else none

theorem any_filter_of_disjoint (h : ∀ a, p a = true → q a = false) (l : List α) :
    (l.filter (! p ·)).any q = l.any q := by
  induction l with
  | nil => rfl
  | cons a l ih =>
    rw [List.any_cons, ← ih]
    cases hp : p a with
    | false => rw [List.filter_cons_of_pos (by rw [hp]; rfl), List.any_cons]
    | true => rw [List.filter_cons_of_neg (by rw [hp]; simp), h a hp, Bool.false_or]

/-- Elements of two kinds are removed independently of each other. -/
theorem apart_dropAll (h : ∀ a, p a = true → q a = false) : Apart (dropAll p) (dropAll q) := by
  intro l
  have hqp : (l.filter (! p ·)).any q = l.any q := any_filter_of_disjoint h l
  have hpq : (l.filter (! q ·)).any p = l.any p := any_filter_of_disjoint (fun a ha => by
    cases hp : p a with
    | false => rfl
    | true => exact absurd (h a hp) (by simp [ha])) l
  have hcomm : (l.filter (! p ·)).filter (! q ·) = (l.filter (! q ·)).filter (! p ·) :=
    List.filter_comm _ _ _
  constructor
  · cases hp : l.any p <;> cases hq : l.any q <;> simp [dropAll, hp, hq, hqp, hpq, hcomm]
  · cases hp : l.any p <;> cases hq : l.any q <;> simp [dropAll, hp, hq, hqp]

end Attempt

end Rewards
