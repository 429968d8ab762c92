/-! When a computation that may fail has a value. -/

namespace Rewards.Outcome

variable {ε α β : Type}

theorem map_eq_ok_iff {f : α → β} {x : Except ε α} {b : β} :
    x.map f = .ok b ↔ ∃ a, x = .ok a ∧ f a = b := by
  cases x <;> simp [Except.map]

theorem bind_eq_ok_iff {f : α → Except ε β} {x : Except ε α} {b : β} :
    (x >>= f) = .ok b ↔ ∃ a, x = .ok a ∧ f a = .ok b := by
  cases x <;> simp [bind, Except.bind]

/-- Every element in turn, up to the first that fails. -/
def each (f : α → Except ε β) : List α → Except ε (List β)
  | [] => .ok []
  | a :: as => do return (← f a) :: (← each f as)

theorem each_cons_eq_ok_iff {f : α → Except ε β} {a : α} {as : List α} {bs : List β} :
    each f (a :: as) = .ok bs ↔ ∃ c cs, f a = .ok c ∧ each f as = .ok cs ∧ bs = c :: cs := by
  rw [each]
  cases hf : f a <;> cases hs : each f as <;> simp [bind, Except.bind, pure, Except.pure, eq_comm]

theorem length_of_each {f : α → Except ε β} {as : List α} {bs : List β}
    (h : each f as = .ok bs) : bs.length = as.length := by
  induction as generalizing bs with
  | nil => cases h; rfl
  | cons a as ih =>
    obtain ⟨c, cs, _, hs, rfl⟩ := each_cons_eq_ok_iff.1 h
    simp [ih hs]

end Rewards.Outcome
