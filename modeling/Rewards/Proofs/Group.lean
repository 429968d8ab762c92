import Rewards.Proofs.Host

/-!
A group acts as the sequence of its single things, whatever its nesting. All of them are granted or
taken in turn, also after one that fails to arrive, and the answer is yes if all answers are; checking
stops at the first no, which nobody can tell since a check changes nothing.
-/

namespace Rewards

variable {ε σ : Type} {act ask : Leaf → Deed ε σ Bool}

namespace Leaf

/-- All things in turn, also after one that answers no. -/
def performEach (act : Leaf → Deed ε σ Bool) : List Leaf → Deed ε σ Bool
  | [] => pure true
  | l :: ls => do
    let one ← act l
    let rest ← performEach act ls
    return one && rest

/-- All things in turn, up to the first that answers no. -/
def checkEach (ask : Leaf → Deed ε σ Bool) : List Leaf → Deed ε σ Bool
  | [] => pure true
  | l :: ls => do if ← ask l then checkEach ask ls else return false

theorem performEach_append (act : Leaf → Deed ε σ Bool) (as bs : List Leaf) :
    performEach act (as ++ bs) = do
      let one ← performEach act as
      let rest ← performEach act bs
      return one && rest := by
  induction as with
  | nil => simp only [List.nil_append, performEach, pure_bind, Bool.true_and, bind_pure]
  | cons l ls ih =>
    simp only [List.cons_append, performEach, ih, bind_assoc, pure_bind, Bool.and_assoc]

theorem checkEach_append (ask : Leaf → Deed ε σ Bool) (as bs : List Leaf) :
    checkEach ask (as ++ bs) = do
      if ← checkEach ask as then checkEach ask bs else return false := by
  induction as with
  | nil => simp only [List.nil_append, checkEach, pure_bind, if_true]
  | cons l ls ih =>
    simp only [List.cons_append, checkEach, ih, bind_assoc]
    congr 1
    funext one
    cases one with
    | false => simp
    | true => simp

/-- The things have acted one after another, each in the state that those before it left, and each with
the answer at its place. -/
inductive Performed (act : Leaf → Deed ε σ Bool) : List Leaf → σ → List Bool → σ → Prop
  | nil (s : σ) : Performed act [] s [] s
  | cons {l : Leaf} {ls : List Leaf} {s s₁ s' : σ} {b : Bool} {bs : List Bool}
      (one : (act l).run s = (.ok b, s₁)) (rest : Performed act ls s₁ bs s') :
      Performed act (l :: ls) s (b :: bs) s'

theorem run_performEach_eq_ok_iff {ls : List Leaf} {s s' : σ} {b : Bool} :
    (performEach act ls).run s = (.ok b, s') ↔ ∃ bs, Performed act ls s bs s' ∧ b = bs.all id := by
  induction ls generalizing s s' b with
  | nil =>
    constructor
    · intro h
      cases h
      exact ⟨[], .nil _, rfl⟩
    · rintro ⟨_, ⟨⟩, rfl⟩
      rfl
  | cons l ls ih =>
    simp only [performEach, Deed.run_bind_eq_ok_iff, ih]
    constructor
    · rintro ⟨one, s₁, h1, rest, s₂, ⟨bs, hbs, rfl⟩, h⟩
      cases h
      exact ⟨one :: bs, .cons h1 hbs, rfl⟩
    · rintro ⟨_, h, rfl⟩
      cases h with
      | cons one rest => exact ⟨_, _, one, _, _, ⟨_, rest, rfl⟩, rfl⟩

theorem run_checkEach {ls : List Leaf} {s : σ} {f : Leaf → Bool} (hq : ∀ l ∈ ls, (ask l).Quiet)
    (hf : ∀ l ∈ ls, ((ask l).run s).1 = .ok (f l)) :
    (checkEach ask ls).run s = (.ok (ls.all f), s) := by
  induction ls with
  | nil => rfl
  | cons l ls ih =>
    obtain ⟨hql, hqs⟩ := List.forall_mem_cons.1 hq
    obtain ⟨hfl, hfs⟩ := List.forall_mem_cons.1 hf
    have hl : (ask l).run s = (.ok (f l), s) := Prod.ext hfl (hql s)
    rw [checkEach, Deed.run_bind_ok hl, List.all_cons]
    cases f l with
    | false => rfl
    | true => exact ih hqs hfs

end Leaf

namespace Grantable

mutual

theorem perform_eq (act : Leaf → Deed ε σ Bool) :
    ∀ g, perform act g = Leaf.performEach act (leaves g)
  | leaf l => by simp [perform, leaves, Leaf.performEach]
  | group gs => by rw [perform, leaves, performAll_eq]

theorem performAll_eq (act : Leaf → Deed ε σ Bool) :
    ∀ gs, performAll act gs = Leaf.performEach act (leavesAll gs)
  | [] => rfl
  | g :: gs => by
    rw [performAll, leavesAll, Leaf.performEach_append, perform_eq act g, performAll_eq act gs]

end

mutual

theorem check_eq (ask : Leaf → Deed ε σ Bool) :
    ∀ g, check ask g = Leaf.checkEach ask (leaves g)
  | leaf l => by
    rw [check, leaves, Leaf.checkEach]
    conv_lhs => rw [← bind_pure (ask l)]
    congr 1
    funext one
    cases one <;> rfl
  | group gs => by rw [check, leaves, checkAll_eq]

theorem checkAll_eq (ask : Leaf → Deed ε σ Bool) :
    ∀ gs, checkAll ask gs = Leaf.checkEach ask (leavesAll gs)
  | [] => rfl
  | g :: gs => by
    rw [checkAll, leavesAll, Leaf.checkEach_append, check_eq ask g, checkAll_eq ask gs]

end

/-- Functions on the state that do a group by doing its elements in turn. -/
structure InTurn (one : Grantable → σ → Bool × σ) (all : List Grantable → σ → Bool × σ) : Prop where
  group : ∀ gs s, one (group gs) s = all gs s
  nil : ∀ s, all [] s = (true, s)
  cons : ∀ g gs s, all (g :: gs) s = ((one g s).1 && (all gs (one g s).2).1, (all gs (one g s).2).2)

variable {one : Grantable → σ → Bool × σ} {all : List Grantable → σ → Bool × σ}

mutual

theorem InTurn.run_perform (h : InTurn one all)
    (hl : ∀ l s, (act l).run s = (.ok (one (leaf l) s).1, (one (leaf l) s).2)) :
    ∀ g s, (perform act g).run s = (.ok (one g s).1, (one g s).2)
  | .leaf l, s => hl l s
  | .group gs, s => by
    rw [perform, h.group]
    exact h.run_performAll hl gs s

theorem InTurn.run_performAll (h : InTurn one all)
    (hl : ∀ l s, (act l).run s = (.ok (one (leaf l) s).1, (one (leaf l) s).2)) :
    ∀ gs s, (performAll act gs).run s = (.ok (all gs s).1, (all gs s).2)
  | [], s => by
    rw [h.nil]
    rfl
  | g :: gs, s => by
    rw [performAll, Deed.run_bind_ok (h.run_perform hl g s),
      Deed.run_bind_ok (h.run_performAll hl gs _), h.cons]
    rfl

end

section World

variable (sv : Services) (who : Text)

theorem inTurn_grant : InTurn (grant sv who) (grantAll sv who) where
  group gs w := by rw [grant]
  nil w := by rw [grantAll]
  cons g gs w := by rw [grantAll]

theorem inTurn_take : InTurn (take sv who) (takeAll sv who) where
  group gs w := by rw [take]
  nil w := by rw [takeAll]
  cons g gs w := by rw [takeAll]

theorem run_grantBy_host (g : Grantable) (w : World) :
    (g.grantBy (World.host sv who)).run w = (.ok (g.grant sv who w).1, (g.grant sv who w).2) :=
  (inTurn_grant sv who).run_perform (fun l w => by rw [grant]; exact l.run_grantBy_host sv who w) g w

theorem run_takeBy_host (g : Grantable) (w : World) :
    (g.takeBy (World.host sv who)).run w = (.ok (g.take sv who w).1, (g.take sv who w).2) :=
  (inTurn_take sv who).run_perform (fun l w => by rw [take]; exact l.run_takeBy_host sv who w) g w

variable {sv who} {w : World}

mutual

theorem run_hasBy_host (hp : (w.players.lookup who).isSome) : ∀ g : Grantable,
    (g.hasBy (World.host sv who)).run w = (.ok (g.has sv who w), w)
  | .leaf l => by
    rw [has]
    exact l.run_hasBy_host hp
  | .group gs => by
    rw [has]
    exact run_checkAll_host hp gs

theorem run_checkAll_host (hp : (w.players.lookup who).isSome) : ∀ gs : List Grantable,
    (checkAll (Leaf.hasBy (World.host sv who)) gs).run w = (.ok (hasAll sv who gs w), w)
  | [] => by
    rw [hasAll]
    rfl
  | g :: gs => by
    have hg : (check (Leaf.hasBy (World.host sv who)) g).run w = (.ok (g.has sv who w), w) :=
      run_hasBy_host hp g
    rw [checkAll, Deed.run_bind_ok hg, hasAll]
    cases g.has sv who w with
    | false => rfl
    | true => exact run_checkAll_host hp gs

end

end World

theorem quiet_hasBy {h : Host ε σ} (hr : h.ReadOnly) (g : Grantable) : (g.hasBy h).Quiet := by
  have hls : ∀ ls, (Leaf.checkEach (Leaf.hasBy h) ls).Quiet := by
    intro ls
    induction ls with
    | nil => exact Deed.quiet_pure true
    | cons l ls ih =>
      apply (hr.quiet_hasBy l).bind
      intro one
      cases one with
      | false => exact Deed.quiet_pure false
      | true => exact ih
  rw [hasBy, check_eq]
  exact hls g.leaves

/-- On every host, whatever its services are and do: granting or taking a group comes to an end exactly
if its single things do in turn, none left out, in the same state, and the answer is yes if all their
answers are. Checking it changes nothing, and says yes if all of them do where they stand. So only the
single things and their order count, not how they are grouped. A world of players, accounts and nodes
is such a host. -/
theorem group_acts_as_leaves (h : Host ε σ) (g : Grantable) :
    (∀ s b s', (g.grantBy h).run s = (.ok b, s') ↔
      ∃ bs, Leaf.Performed (Leaf.grantBy h) g.leaves s bs s' ∧ b = bs.all id) ∧
    (∀ s b s', (g.takeBy h).run s = (.ok b, s') ↔
      ∃ bs, Leaf.Performed (Leaf.takeBy h) g.leaves s bs s' ∧ b = bs.all id) ∧
    (h.ReadOnly → ∀ s, ((g.hasBy h).run s).2 = s ∧
      ∀ f, (∀ l ∈ g.leaves, ((l.hasBy h).run s).1 = .ok (f l)) →
        (g.hasBy h).run s = (.ok (g.leaves.all f), s)) ∧
    (∀ g' : Grantable, g'.leaves = g.leaves →
      g'.grantBy h = g.grantBy h ∧ g'.takeBy h = g.takeBy h ∧ g'.hasBy h = g.hasBy h) ∧
    ∀ sv who w,
      (g.grantBy (World.host sv who)).run w = (.ok (g.grant sv who w).1, (g.grant sv who w).2) ∧
      (g.takeBy (World.host sv who)).run w = (.ok (g.take sv who w).1, (g.take sv who w).2) ∧
      ((w.players.lookup who).isSome →
        (g.hasBy (World.host sv who)).run w = (.ok (g.has sv who w), w)) := by
  refine ⟨fun s b s' => ?_, fun s b s' => ?_, fun hr s => ⟨quiet_hasBy hr g s, fun f hf => ?_⟩,
    fun g' hg => ?_, fun sv who w => ⟨run_grantBy_host sv who g w, run_takeBy_host sv who g w,
      fun hp => run_hasBy_host hp g⟩⟩
  · rw [grantBy, perform_eq]
    exact Leaf.run_performEach_eq_ok_iff
  · rw [takeBy, perform_eq]
    exact Leaf.run_performEach_eq_ok_iff
  · rw [hasBy, check_eq]
    exact Leaf.run_checkEach (fun l _ => hr.quiet_hasBy l) hf
  · simp only [grantBy, takeBy, hasBy, perform_eq, check_eq, hg, and_self]

/-- No permissions are at hand, so the first thing is refused; the dirt in a group further on arrives
all the same. -/
theorem dirt_arrives_after_refusal :
    let dirt : Item := ⟨⟨3, "DIRT"⟩, 2, 0, []⟩
    let g := group [leaf (.permission "kit"), group [], group [leaf (.item dirt)]]
    let world (slot : Option Stack) : World := ⟨[("p", ⟨[slot], [], true⟩)], none, none⟩
    let h := World.host ⟨false, false⟩ "p"
    (g.grantBy h).run (world none) = (.ok false, world (some dirt.toStack)) ∧
      h.ReadOnly ∧ (∀ l ∈ g.leaves, ((l.hasBy h).run (world none)).1 = .ok false) ∧
      (g.hasBy h).run (world none) = (.ok false, world none) := by
  intro dirt g world h
  obtain ⟨hgrant, -, hhas, -, -⟩ := group_acts_as_leaves h g
  have hno : ∀ l ∈ g.leaves, ((l.hasBy h).run (world none)).1 = .ok false :=
    List.forall_mem_cons.2 ⟨rfl, List.forall_mem_singleton.2 rfl⟩
  have hr : h.ReadOnly := World.host_readOnly _ _
  refine ⟨(hgrant _ _ _).2 ⟨[false, true], .cons rfl (.cons rfl (.nil _)), rfl⟩, hr, hno, ?_⟩
  exact (hhas hr _).2 (fun _ => false) hno

end Grantable

end Rewards
