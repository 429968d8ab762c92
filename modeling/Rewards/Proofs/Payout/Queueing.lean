import Mathlib.Tactic.Common
import Rewards.Payout

/-!
Queueing several rewards at once. They go to the back of the queue one by one, up to the first that is
missing: what stands before it stays queued, although the call is refused.
-/

namespace Rewards.Payout

theorem queue_add (who name : Text) (g : Grantable) (p : Payout) :
    (p.add who (some g)).2.queue name = p.queue name ++ if name = who then [g] else [] := by
  unfold add queue
  rw [Assoc.lookup_put]
  by_cases h : name = who
  · simp [h]
  · simp [h]

/-- A call comes to its end exactly if no reward is missing, and then the whole list stands behind what
was queued for the name. Else it is refused, and the rewards before the first that is missing stand
there. No other queue and no mark changes. -/
theorem queued_up_to_missing (who : Text) (rewards : List (Option Grantable)) (p : Payout) :
    ∃ gs : List Grantable,
      ((p.addAll who rewards).1 = .ok () ∧ rewards = gs.map some ∨
        (p.addAll who rewards).1 = .error .none ∧ ∃ later, rewards = gs.map some ++ none :: later) ∧
      (∀ name, (p.addAll who rewards).2.queue name =
        p.queue name ++ if name = who then gs else []) ∧
      (p.addAll who rewards).2.paid = p.paid := by
  induction rewards generalizing p with
  | nil => exact ⟨[], .inl ⟨rfl, rfl⟩, by simp [addAll], rfl⟩
  | cons reward rewards ih =>
    cases reward with
    | none => exact ⟨[], .inr ⟨rfl, rewards, rfl⟩, by simp [addAll, add], rfl⟩
    | some g =>
      obtain ⟨gs, hanswer, hqueue, hpaid⟩ := ih (p.add who (some g)).2
      have hrun : p.addAll who (some g :: rewards) = (p.add who (some g)).2.addAll who rewards := rfl
      rw [hrun]
      refine ⟨g :: gs, ?_, fun name => ?_, hpaid⟩
      · obtain ⟨hok, rfl⟩ | ⟨hno, later, rfl⟩ := hanswer
        · exact .inl ⟨hok, rfl⟩
        · exact .inr ⟨hno, later, rfl⟩
      · rw [hqueue name, queue_add, List.append_assoc]
        split <;> rfl

/-- The call is refused for the missing reward, and the dirt before it stays queued. -/
theorem dirt_stays_queued :
    let dirt := Grantable.leaf (.item ⟨⟨3, "DIRT"⟩, 1, 0, []⟩)
    let run := empty.addAll "p" [some dirt, none]
    run.1 = .error .none ∧ empty.queue "p" = [] ∧ run.2.queue "p" = [dirt] := by
  intro dirt run
  exact ⟨rfl, rfl, rfl⟩

end Rewards.Payout
