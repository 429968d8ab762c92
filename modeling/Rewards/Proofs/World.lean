import Rewards.Proofs.Assoc
import Rewards.Proofs.Group

/-!
What granting leaves alone. A view of the state of a host is kept by all that is put together from deeds
that keep it. In a world, granting to one player keeps what it holds under every other name.
-/

namespace Rewards

variable {ε σ α β γ : Type} {look : σ → γ}

namespace Deed

/-- The deed leaves what is seen of the state as it is, also where it fails. -/
def Keeps (look : σ → γ) (x : Deed ε σ α) : Prop := ∀ s, look (x.run s).2 = look s

theorem keeps_pure (look : σ → γ) (a : α) : Keeps look (pure a : Deed ε σ α) := fun _ => rfl

theorem Keeps.bind {x : Deed ε σ α} {f : α → Deed ε σ β} (hx : x.Keeps look)
    (hf : ∀ a, (f a).Keeps look) : (x >>= f).Keeps look := by
  intro s
  have hs := hx s
  rw [run_bind]
  rcases hr : x.run s with ⟨_ | a, s'⟩
  · rwa [hr] at hs
  · rw [hr] at hs
    exact (hf a s').trans hs

end Deed

theorem Leaf.keeps_performEach {act : Leaf → Deed ε σ Bool} (h : ∀ l, (act l).Keeps look)
    (ls : List Leaf) : (performEach act ls).Keeps look := by
  induction ls with
  | nil => exact Deed.keeps_pure look true
  | cons l ls ih => exact (h l).bind fun one => ih.bind fun rest => Deed.keeps_pure look _

theorem Grantable.keeps_grantBy {h : Host ε σ} (hl : ∀ l : Leaf, (l.grantBy h).Keeps look)
    (g : Grantable) : (g.grantBy h).Keeps look := by
  rw [grantBy, perform_eq]
  exact Leaf.keeps_performEach hl g.leaves

namespace World

/-- What a world holds under a name: a player, money and nodes. Without a backend there is none. -/
structure Holdings where
  player : Option Player
  balance : Option (Option Float)
  nodes : Option (Option (List Text))

def holdings (w : World) (name : Text) : Holdings :=
  ⟨w.players.lookup name, w.accounts.map (·.lookup name), w.nodes.map (·.lookup name)⟩

variable {who name : Text} (h : name ≠ who)

include h

theorem holdings_setPlayer (p : Player) (w : World) :
    (w.setPlayer who p).holdings name = w.holdings name := by
  simp only [holdings, setPlayer, Assoc.lookup_put_of_ne h]

theorem holdings_giveStack (s : Stack) (w : World) :
    (w.giveStack who s).2.holdings name = w.holdings name := by
  unfold giveStack
  split
  · rfl
  · split
    · rfl
    · exact holdings_setPlayer h _ w

theorem holdings_giveEffect (e : ActiveEffect) (w : World) :
    (w.giveEffect who e).2.holdings name = w.holdings name := by
  unfold giveEffect
  split
  · rfl
  · split
    · exact holdings_setPlayer h _ w
    · rfl

theorem holdings_deposit (x : Float) (w : World) :
    (w.deposit who x).2.holdings name = w.holdings name := by
  unfold deposit
  split
  · rfl
  · rename_i ha
    simp only [holdings, ha, Option.map_some, Assoc.lookup_put_of_ne h]

theorem holdings_permit (node : Text) (w : World) :
    (w.permit who node).2.holdings name = w.holdings name := by
  unfold permit
  split
  · rfl
  · rename_i hn
    simp only [holdings, hn, Option.map_some, Assoc.lookup_put_of_ne h]

/-- A grant to one player changes nothing under another name. -/
theorem holdings_grant (sv : Services) (l : Leaf) (w : World) :
    (l.grant sv who w).2.holdings name = w.holdings name := by
  cases l with
  | currency x =>
    rw [Leaf.grant]
    split
    · exact holdings_deposit h x w
    · rfl
  | permission node =>
    rw [Leaf.grant]
    split
    · exact holdings_permit h node w
    · rfl
  | effect e => exact holdings_giveEffect h _ w
  | item i => exact holdings_giveStack h _ w
  | stack s => exact holdings_giveStack h s w
  | custom c => rfl

end World

/-- A host of a world that grants as the world does. What the grantables of clients do to the recipient
is open. -/
structure Host.OnWorld (h : Host ε World) (sv : Services) : Prop where
  builtIn : ∀ l : Leaf, (∀ c, l ≠ .custom c) → ∀ w,
    (l.grantBy h).run w = (.ok (l.grant sv h.name w).1, (l.grant sv h.name w).2)
  custom : ∀ c name, name ≠ h.name → (h.grantCustom c).Keeps (World.holdings · name)

theorem World.host_onWorld (sv : Services) (who : Text) : (host sv who).OnWorld sv where
  builtIn l _ w := l.run_grantBy_host sv who w
  custom _ _ _ := Deed.keeps_pure _ false

theorem Host.OnWorld.keeps_grantBy {h : Host ε World} {sv : Services} (hw : h.OnWorld sv)
    {name : Text} (hn : name ≠ h.name) (g : Grantable) :
    (g.grantBy h).Keeps (World.holdings · name) := by
  apply Grantable.keeps_grantBy
  intro l
  by_cases hc : ∃ c, l = .custom c
  · obtain ⟨c, rfl⟩ := hc
    exact hw.custom c name hn
  · intro w
    rw [hw.builtIn l (not_exists.1 hc) w]
    exact World.holdings_grant hn sv l w

end Rewards
