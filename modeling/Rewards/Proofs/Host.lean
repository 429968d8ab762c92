import Mathlib.Tactic.Common
import Rewards.Host

/-!
Deeds on a host, run on its state. The world of the commands is a host: granting, taking and checking
through it does what the functions on worlds do.
-/

namespace Rewards

variable {ε σ α β : Type}

namespace Deed

theorem run_pure (a : α) (s : σ) : (pure a : Deed ε σ α).run s = (.ok a, s) := rfl

theorem run_step (f : σ → α × σ) (s : σ) :
    (step f : Deed ε σ α).run s = (.ok (f s).1, (f s).2) := rfl

theorem run_bind (x : Deed ε σ α) (f : α → Deed ε σ β) (s : σ) :
    (x >>= f).run s = match x.run s with
      | (.ok a, s') => (f a).run s'
      | (.error e, s') => (.error e, s') := by
  simp only [run, ExceptT.run_bind, StateT.run_bind, Id.run_bind]
  rcases Id.run (StateT.run (ExceptT.run x) s) with ⟨_ | _, _⟩ <;> rfl

theorem run_bind_ok {x : Deed ε σ α} {f : α → Deed ε σ β} {s s' : σ} {a : α}
    (h : x.run s = (.ok a, s')) : (x >>= f).run s = (f a).run s' := by
  rw [run_bind, h]

theorem run_bind_eq_ok_iff {x : Deed ε σ α} {f : α → Deed ε σ β} {s s' : σ} {b : β} :
    (x >>= f).run s = (.ok b, s') ↔
      ∃ a s₁, x.run s = (.ok a, s₁) ∧ (f a).run s₁ = (.ok b, s') := by
  rw [run_bind]
  rcases x.run s with ⟨_ | a, s₁⟩ <;> simp

/-- The deed leaves the state as it is, also where it fails. -/
def Quiet (x : Deed ε σ α) : Prop := ∀ s, (x.run s).2 = s

theorem quiet_pure (a : α) : Quiet (pure a : Deed ε σ α) := fun _ => rfl

theorem Quiet.bind {x : Deed ε σ α} {f : α → Deed ε σ β} (hx : x.Quiet) (hf : ∀ a, (f a).Quiet) :
    (x >>= f).Quiet := by
  intro s
  have hs := hx s
  rw [run_bind]
  rcases hr : x.run s with ⟨_ | a, s'⟩
  · rwa [hr] at hs
  · rw [hr] at hs
    exact (hf a s').trans hs

end Deed

/-- Questions to the host change nothing. -/
structure Host.ReadOnly (h : Host ε σ) : Prop where
  contents : h.contents.Quiet
  activeEffects : h.activeEffects.Quiet
  economy : ∀ e ∈ h.economy, ∀ account x, (e.has account x).Quiet
  permissions : ∀ p ∈ h.permissions, ∀ who node, (p.has who node).Quiet
  custom : ∀ c, (h.hasCustom c).Quiet

theorem Host.quiet_ask {service : Option α} {f : α → Deed ε σ Bool}
    (h : ∀ a ∈ service, (f a).Quiet) : (Host.ask service f).Quiet := by
  cases service with
  | none => exact Deed.quiet_pure false
  | some a => exact h a rfl

theorem Host.ReadOnly.quiet_hasBy {h : Host ε σ} (hr : h.ReadOnly) (l : Leaf) :
    (l.hasBy h).Quiet := by
  cases l with
  | currency x => exact Host.quiet_ask fun e he => hr.economy e he _ _
  | permission node => exact Host.quiet_ask fun p hp => hr.permissions p hp _ _
  | effect e => exact hr.activeEffects.bind fun _ => Deed.quiet_pure _
  | item i => exact hr.contents.bind fun _ => Deed.quiet_pure _
  | stack s => exact hr.contents.bind fun _ => Deed.quiet_pure _
  | custom c => exact hr.custom c

namespace World

variable (sv : Services) (who : Text)

theorem host_readOnly : (host sv who).ReadOnly where
  contents _ := rfl
  activeEffects _ := rfl
  economy e he account x s := by
    obtain ⟨-, he⟩ := Option.mem_ite_none_right.1 he
    obtain rfl : economy = e := Option.some.inj he
    rfl
  permissions p hp who node s := by
    obtain ⟨-, hp⟩ := Option.mem_ite_none_right.1 hp
    obtain rfl : permissions = p := Option.some.inj hp
    rfl
  custom _ _ := rfl

theorem run_giveStack_host (s : Stack) (w : World) :
    ((host sv who).giveStack s).run w = (.ok (w.giveStack who s).1, (w.giveStack who s).2) := by
  rw [Host.giveStack, Deed.run_bind, host, Deed.run_step]
  rcases w.giveStack who s with ⟨_ | _, _⟩ <;> rfl

theorem run_takeStack_host (m : Key) (amount : Int) (w : World) :
    ((host sv who).takeStack m amount).run w =
      (.ok (w.takeStack who m amount).1, (w.takeStack who m amount).2) := by
  rw [Host.takeStack, Deed.run_bind, host, Deed.run_step, takeStack]
  cases hp : w.players.lookup who with
  | none => rfl
  | some p =>
    cases ht : p.slots.take? m amount with
    | none => simp only [Option.map_some, Option.getD_some, ht, Deed.run_pure]
    | some slots =>
      simp only [Option.map_some, Option.getD_some, ht, Deed.run_bind, Deed.run_step, hp,
        Deed.run_pure]

theorem run_takeEffect_host (kind : Key) (w : World) :
    ((host sv who).takeEffect kind).run w =
      (.ok (w.takeEffect who kind).1, (w.takeEffect who kind).2) := by
  rw [Host.takeEffect, Host.hasEffect, Deed.run_bind, Deed.run_bind, host, Deed.run_step, takeEffect]
  cases hp : w.players.lookup who with
  | none => rfl
  | some p =>
    have hany : p.effects.any (·.kind = kind) = p.hasEffect kind := rfl
    cases he : p.hasEffect kind with
    | false =>
      rw [he] at hany
      simp only [Option.map_some, Option.getD_some, hany, he, Deed.run_pure, Bool.false_eq_true,
        if_false]
    | true =>
      rw [he] at hany
      simp only [Option.map_some, Option.getD_some, hany, he, Deed.run_pure, if_true, Deed.run_bind,
        Deed.run_step, hp]

end World

namespace Leaf

variable (sv : Services) (who : Text)

theorem run_grantBy_host (l : Leaf) (w : World) :
    (l.grantBy (World.host sv who)).run w = (.ok (l.grant sv who w).1, (l.grant sv who w).2) := by
  cases l with
  | currency x =>
    rw [grantBy, grant]
    cases hs : sv.economy <;> simp only [World.host, hs] <;> rfl
  | permission node =>
    rw [grantBy, grant]
    cases hs : sv.permissions <;> simp only [World.host, hs] <;> rfl
  | effect e => rfl
  | item i => exact World.run_giveStack_host sv who i.toStack w
  | stack s => exact World.run_giveStack_host sv who s w
  | custom c => rfl

theorem run_takeBy_host (l : Leaf) (w : World) :
    (l.takeBy (World.host sv who)).run w = (.ok (l.take sv who w).1, (l.take sv who w).2) := by
  cases l with
  | currency x =>
    rw [takeBy, take]
    cases hs : sv.economy <;> simp only [World.host, hs] <;> rfl
  | permission node =>
    rw [takeBy, take]
    cases hs : sv.permissions <;> simp only [World.host, hs] <;> rfl
  | effect e => exact World.run_takeEffect_host sv who e.kind w
  | item i => exact World.run_takeStack_host sv who i.material i.amount w
  | stack s => exact World.run_takeStack_host sv who s.material s.amount w
  | custom c => rfl

variable {sv who}

/-- A recipient whom the world does not know has no slots, and is told no without a count. -/
theorem run_hasBy_host (l : Leaf) {w : World} (hp : (w.players.lookup who).isSome) :
    (l.hasBy (World.host sv who)).run w = (.ok (l.has sv who w), w) := by
  obtain ⟨p, hp⟩ := Option.isSome_iff_exists.1 hp
  cases l with
  | currency x =>
    rw [hasBy, has]
    cases hs : sv.economy <;> simp only [World.host, hs] <;> rfl
  | permission node =>
    rw [hasBy, has]
    cases hs : sv.permissions <;> simp only [World.host, hs] <;> rfl
  | effect e =>
    rw [hasBy, has, Host.hasEffect, Deed.run_bind, World.host, Deed.run_step, World.hasEffect, hp]
    rfl
  | item i =>
    rw [hasBy, has, Host.holds, Deed.run_bind, World.host, Deed.run_step, World.holds, hp]
    rfl
  | stack s =>
    rw [hasBy, has, Host.holds, Deed.run_bind, World.host, Deed.run_step, World.holds, hp]
    rfl
  | custom c => rfl

end Leaf

end Rewards
