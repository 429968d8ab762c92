import Rewards.Load.Descriptor
import Rewards.Proofs.Fault

/-!
Runs of a loader. A lenient reader of descriptors keeps the message of a refusal and goes on, a
strict one stops at it, and nothing else tells them apart.
-/

namespace Rewards.Loading

variable {α β : Type}

theorem run_pure (a : α) (j : Journal) : (pure a : Loading α).run j = (.ok a, j) := rfl

theorem run_throw (e : LoadError) (j : Journal) :
    (throw e : Loading α).run j = (.error e, j) := rfl

theorem run_bind (x : Loading α) (f : α → Loading β) (j : Journal) :
    (x >>= f).run j = match x.run j with
      | (.ok a, j') => (f a).run j'
      | (.error e, j') => (.error e, j') := by
  simp only [run, ExceptT.run_bind, StateT.run_bind, Id.run_bind]
  rcases Id.run (StateT.run (ExceptT.run x) j) with ⟨_ | _, _⟩ <;> rfl

theorem run_bind_eq_ok_iff {x : Loading α} {f : α → Loading β} {j j' : Journal} {b : β} :
    (x >>= f).run j = (.ok b, j') ↔
      ∃ a k, x.run j = (.ok a, k) ∧ (f a).run k = (.ok b, j') := by
  rw [run_bind]
  rcases x.run j with ⟨e | a, k⟩ <;> simp

theorem run_refusal_lenient (context : Text) (r : Refusal) (j : Journal) :
    (refusal false context r).run j =
      (.ok (), j.skip "reward" (context ++ ": " ++ r.message)) := rfl

end Rewards.Loading
