import Mathlib.Data.List.Basic
import Mathlib.Tactic.Common
import Rewards.Outcome

/-! Computations on all elements of a list, up to the first that fails. -/

namespace Rewards.Outcome

variable {ε ε' α β : Type}

theorem mapError_eq_ok_iff {f : ε → ε'} {x : Except ε α} {a : α} :
    x.mapError f = .ok a ↔ x = .ok a := by
  cases x <;> simp [Except.mapError]

theorem mapError_map {γ : Type} (f : α → β) (g : ε → γ) (x : Except ε α) :
    (x.map f).mapError g = (x.mapError g).map f := by
  cases x <;> rfl

theorem each_map {γ : Type} (f : β → Except ε γ) (g : α → β) (as : List α) :
    each f (as.map g) = each (fun a => f (g a)) as := by
  induction as with
  | nil => rfl
  | cons a as ih => rw [List.map_cons, each, each, ih]

theorem each_mapError (f : α → Except ε β) (g : ε → ε') (as : List α) :
    (each f as).mapError g = each (fun a => (f a).mapError g) as := by
  induction as with
  | nil => rfl
  | cons a as ih =>
    rw [each, each, ← ih]
    cases f a <;> cases each f as <;> rfl

theorem each_attach (f : α → Except ε β) (as : List α) :
    each (fun a : { a // a ∈ as } => f a.1) as.attach = each f as := by
  rw [← each_map f Subtype.val, List.attach_map_subtype_val]

theorem each_congr {f g : α → Except ε β} {as : List α} (h : ∀ a ∈ as, f a = g a) :
    each f as = each g as := by
  induction as with
  | nil => rfl
  | cons a as ih =>
    obtain ⟨ha, has⟩ := List.forall_mem_cons.1 h
    rw [each, each, ha, ih has]

theorem each_eq_ok {f : α → Except ε β} {g : α → β} {as : List α} (h : ∀ a ∈ as, f a = .ok (g a)) :
    each f as = .ok (as.map g) := by
  induction as with
  | nil => rfl
  | cons a as ih =>
    obtain ⟨ha, has⟩ := List.forall_mem_cons.1 h
    rw [each, ha, ih has]
    rfl

theorem exists_of_each {f : α → Except ε β} {as : List α} {bs : List β} (h : each f as = .ok bs) :
    ∀ a ∈ as, ∃ b ∈ bs, f a = .ok b := by
  induction as generalizing bs with
  | nil => exact fun a ha => absurd ha List.not_mem_nil
  | cons a as ih =>
    obtain ⟨c, cs, hc, hcs, rfl⟩ := each_cons_eq_ok_iff.1 h
    refine List.forall_mem_cons.2 ⟨⟨c, List.mem_cons_self, hc⟩, fun d hd => ?_⟩
    obtain ⟨b, hb, hd⟩ := ih hcs d hd
    exact ⟨b, List.mem_cons_of_mem _ hb, hd⟩

theorem exists_of_mem_each {f : α → Except ε β} {as : List α} {bs : List β}
    (h : each f as = .ok bs) : ∀ b ∈ bs, ∃ a ∈ as, f a = .ok b := by
  induction as generalizing bs with
  | nil =>
    cases h
    exact fun b hb => absurd hb List.not_mem_nil
  | cons a as ih =>
    obtain ⟨c, cs, hc, hcs, rfl⟩ := each_cons_eq_ok_iff.1 h
    refine List.forall_mem_cons.2 ⟨⟨a, List.mem_cons_self, hc⟩, fun d hd => ?_⟩
    obtain ⟨b, hb, hd⟩ := ih hcs d hd
    exact ⟨b, List.mem_cons_of_mem _ hb, hd⟩

theorem mapM_eq_each (f : α → Except ε β) (as : List α) : as.mapM f = each f as := by
  induction as with
  | nil => rfl
  | cons a as ih => rw [List.mapM_cons, ih, each]

end Rewards.Outcome
