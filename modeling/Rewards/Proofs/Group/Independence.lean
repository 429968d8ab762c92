import Rewards.Proofs.Assoc
import Rewards.Proofs.Attempt
import Rewards.Proofs.Decimal.Binary
import Rewards.Proofs.Group
import Rewards.Proofs.Inventory

/-!
Taking a group of things of which no two draw on the same resource. Each is taken from a part of the
world of its own, or from one part by changes that are apart. So checking the group tells whether all
of it will be taken, and the order of its things does not matter.
-/

namespace Rewards

open Attempt Decimal

namespace Inventory

variable {m m' : Key} {n n' : Int} {slot : Option Stack} {slots : Inventory}

theorem take?_cons_of_ne (h : ∀ s ∈ slot, s.material ≠ m) :
    take? m n (slot :: slots) = (take? m n slots).map (slot :: ·) := by
  cases slot with
  | none => rfl
  | some s => exact if_neg (h s rfl)

/-- The first slot either ends the taking or leaves an amount for the others, whatever they are. What
is left in it is of the material that was there. -/
theorem take?_cons (m : Key) (n : Int) (slot : Option Stack) : ∃ left : Option Stack,
    (∀ m', (∀ s ∈ slot, s.material ≠ m') → ∀ s ∈ left, s.material ≠ m') ∧
      ((∀ slots, take? m n (slot :: slots) = some (left :: slots)) ∨
        ∃ k, ∀ slots, take? m n (slot :: slots) = (take? m k slots).map (left :: ·)) := by
  cases slot with
  | none => exact ⟨none, fun _ h => h, .inr ⟨n, fun _ => rfl⟩⟩
  | some s =>
    have hnone (m' : Key) : (∀ t ∈ some s, t.material ≠ m') →
        ∀ t : Stack, t ∈ none → t.material ≠ m' :=
      fun _ _ ht => nomatch ht
    by_cases hm : s.material = m
    · rcases lt_trichotomy n s.amount with hlt | rfl | hgt
      · refine ⟨some { s with amount := s.amount - n }, fun m' h t ht => ?_, .inl fun slots => ?_⟩
        · cases ht
          exact h s rfl
        · rw [take?, if_pos hm, if_pos hlt]
      · refine ⟨none, hnone, .inl fun slots => ?_⟩
        rw [take?, if_pos hm, if_neg (lt_irrefl _), if_pos rfl]
      · refine ⟨none, hnone, .inr ⟨n - s.amount, fun slots => ?_⟩⟩
        rw [take?, if_pos hm, if_neg hgt.not_gt, if_neg hgt.ne']
    · exact ⟨some s, fun _ h => h, .inr ⟨n, fun slots => if_neg hm⟩⟩

/-- A slot that does not hold the second material is used up by the first alone. -/
theorem apartAt_cons (hslot : ∀ s ∈ slot, s.material ≠ m')
    (ih : ∀ k, ApartAt (take? m k) (take? m' n') slots) (n : Int) :
    ApartAt (take? m n) (take? m' n') (slot :: slots) := by
  obtain ⟨left, hkept, hstop | ⟨k, hgo⟩⟩ := take?_cons m n slot
  · have hleft := hkept m' hslot
    constructor
    · rw [hstop, take?_cons_of_ne hslot, Option.bind_some, take?_cons_of_ne hleft, Option.bind_map]
      simp only [Function.comp_def, hstop, Option.map_eq_bind]
    · rw [hstop, take?_cons_of_ne hslot, Option.bind_some, take?_cons_of_ne hleft]
      simp only [Option.isSome_map]
      exact fun _ h => h
  · have hleft := hkept m' hslot
    have hfirst : (take? m n (slot :: slots)).bind (take? m' n') =
        ((take? m k slots).bind (take? m' n')).map (left :: ·) := by
      rw [hgo, Option.bind_map, Option.map_bind]
      simp only [Function.comp_def, take?_cons_of_ne hleft]
    constructor
    · rw [hfirst, (ih k).comm, take?_cons_of_ne hslot, Option.bind_map, Option.map_bind]
      simp only [Function.comp_def, hgo]
    · rw [hfirst, hgo, take?_cons_of_ne hslot]
      simp only [Option.isSome_map]
      exact (ih k).both

/-- Different materials are taken out of the same slots independently of each other. -/
theorem apart_take? (h : m ≠ m') (n n' : Int) : Apart (take? m n) (take? m' n') := by
  intro slots
  induction slots generalizing n n' with
  | nil => exact ⟨rfl, fun h => nomatch h⟩
  | cons slot slots ih =>
    by_cases hslot : ∀ s ∈ slot, s.material ≠ m'
    · exact apartAt_cons hslot (fun k => ih k n') n
    · have hslot' : ∀ s ∈ slot, s.material ≠ m := by
        rintro s hs rfl
        refine hslot fun t ht => ?_
        rwa [Option.mem_unique ht hs]
      exact (apartAt_cons hslot' (fun k => (ih n k).symm) n').symm

end Inventory

namespace Player

def storage : Portion Player Inventory where
  get? p := some p.slots
  set slots p := { p with slots }
  get?_set _ _ _ := rfl
  set_set _ _ _ _ := rfl

def powers : Portion Player (List ActiveEffect) where
  get? p := some p.effects
  set effects p := { p with effects }
  get?_set _ _ _ := rfl
  set_set _ _ _ _ := rfl

theorem storage_disjoint_powers : storage.Disjoint powers :=
  ⟨fun _ _ => rfl, fun _ _ => rfl, fun _ _ _ => rfl⟩

end Player

/-- What is kept under a key; what is not there counts as empty. -/
def Assoc.entry {β : Type} (key : Text) (empty : β) : Portion (Assoc Text β) β where
  get? es := some ((es.lookup key).getD empty)
  set v es := es.put key v
  get?_set es v _ := by rw [Assoc.lookup_put, beq_self_eq_true, if_pos rfl, Option.getD_some]
  set_set es u v _ := Assoc.put_put key u v es

namespace World

variable (sv : Services) (who : Text)

def recipient : Portion World Player where
  get? w := w.players.lookup who
  set p w := w.setPlayer who p
  get?_set w p _ := by rw [setPlayer, Assoc.lookup_put, beq_self_eq_true, if_pos rfl]
  set_set w p q _ := by rw [setPlayer, setPlayer, setPlayer, Assoc.put_put]

/-- All accounts. They are missing where no economy is at hand. -/
def ledger : Portion World (Assoc Text Float) where
  get? w := if sv.economy then w.accounts else none
  set a w := { w with accounts := some a }
  get?_set w a h := by
    cases hs : sv.economy with
    | false => simp [hs] at h
    | true => rfl
  set_set _ _ _ _ := rfl

/-- The nodes of all players. They are missing where no permissions are at hand. -/
def grants : Portion World (Assoc Text (List Text)) where
  get? w := if sv.permissions then w.nodes else none
  set ns w := { w with nodes := some ns }
  get?_set w ns h := by
    cases hs : sv.permissions with
    | false => simp [hs] at h
    | true => rfl
  set_set _ _ _ _ := rfl

theorem ledger_disjoint_grants : (ledger sv).Disjoint (grants sv) :=
  ⟨fun _ _ => rfl, fun _ _ => rfl, fun _ _ _ => rfl⟩

theorem ledger_disjoint_recipient : (ledger sv).Disjoint (recipient who) :=
  ⟨fun _ _ => rfl, fun _ _ => rfl, fun _ _ _ => rfl⟩

theorem grants_disjoint_recipient : (grants sv).Disjoint (recipient who) :=
  ⟨fun _ _ => rfl, fun _ _ => rfl, fun _ _ _ => rfl⟩

/-- Every stack of the recipient holds something. -/
def Stocked (w : World) : Prop := ∀ p ∈ w.players.lookup who, p.slots.Stocked

/-- The balance of the recipient is a number, where an economy is at hand. -/
def Reckons (w : World) : Prop :=
  sv.economy = true → ∀ a ∈ w.accounts, Binary.ofFloat (balance a who) ≠ .notANumber

def spending (x : Float) : Attempt World :=
  (ledger sv).attempt ((Assoc.entry who 0.0).attempt fun b => if b < x then none else some (b - x))

def forbidding (node : Text) : Attempt World :=
  (grants sv).attempt ((Assoc.entry who []).attempt (dropAll (· = node)))

def curing (kind : Key) : Attempt World :=
  (recipient who).attempt (Player.powers.attempt (dropAll (·.kind = kind)))

def unloading (m : Key) (n : Int) : Attempt World :=
  (recipient who).attempt (Player.storage.attempt (Inventory.take? m n))

variable {sv who} {w : World}

theorem spending_of_some (hs : sv.economy = true) {a : Assoc Text Float} (ha : w.accounts = some a)
    (x : Float) : spending sv who x w = if balance a who < x then none
      else some { w with accounts := some (a.put who (balance a who - x)) } := by
  have hget : (ledger sv).get? w = some a := (if_pos hs).trans ha
  rw [spending, Portion.attempt_of_some hget, Portion.attempt_of_some rfl]
  change Option.map _ (Option.map _ (if balance a who < x then none else some _)) = _
  split <;> rfl

theorem take_currency (x : Float) :
    (Leaf.currency x).take sv who w = (spending sv who x).make w := by
  cases hs : sv.economy with
  | false => simp [Leaf.take, make, spending, Portion.attempt, ledger, hs]
  | true => cases ha : w.accounts with
    | none => simp [Leaf.take, withdraw, make, spending, Portion.attempt, ledger, hs, ha]
    | some a =>
      by_cases hx : balance a who < x
      · simp [Leaf.take, withdraw, make, spending_of_some hs ha, hs, ha, hx]
      · simp [Leaf.take, withdraw, make, spending_of_some hs ha, hs, ha, hx]

theorem has_currency {x : Float} (hx : Binary.ofFloat x ≠ .notANumber) (hw : w.Reckons sv who) :
    (Leaf.currency x).has sv who w = (spending sv who x w).isSome := by
  change (Leaf.currency x).has sv who w = ((spending sv who x).make w).1
  rw [← take_currency, Leaf.has, Leaf.take, affords, withdraw]
  cases hs : sv.economy with
  | false => simp
  | true => cases ha : w.accounts with
    | none => simp
    | some a =>
      have hb : Binary.ofFloat (balance a who) ≠ .notANumber := hw hs a ha
      have hle : x ≤ balance a who ↔ ¬ balance a who < x := Binary.le_iff_not_lt hx hb
      by_cases hlt : balance a who < x <;> simp [hle, hlt]

theorem forbidding_of_some (hs : sv.permissions = true) {ns : Assoc Text (List Text)}
    (hn : w.nodes = some ns) (node : Text) : forbidding sv who node w =
      if node ∈ held ns who then
        some { w with nodes := some (ns.put who ((held ns who).filter (· ≠ node))) }
      else none := by
  have hget : (grants sv).get? w = some ns := (if_pos hs).trans hn
  rw [forbidding, Portion.attempt_of_some hget, Portion.attempt_of_some rfl]
  change Option.map _ (Option.map _ (dropAll _ (held ns who))) = _
  by_cases hc : node ∈ held ns who
  · simp [dropAll, grants, Assoc.entry, hc]
  · simp [dropAll, hc]

theorem take_permission (node : Text) :
    (Leaf.permission node).take sv who w = (forbidding sv who node).make w := by
  cases hs : sv.permissions with
  | false => simp [Leaf.take, make, forbidding, Portion.attempt, grants, hs]
  | true => cases hn : w.nodes with
    | none => simp [Leaf.take, forbid, make, forbidding, Portion.attempt, grants, hs, hn]
    | some ns =>
      by_cases hc : node ∈ held ns who
      · simp [Leaf.take, forbid, make, forbidding_of_some hs hn, hs, hn, hc]
      · simp [Leaf.take, forbid, make, forbidding_of_some hs hn, hs, hn, hc]

theorem has_permission (node : Text) :
    (Leaf.permission node).has sv who w = (forbidding sv who node w).isSome := by
  change (Leaf.permission node).has sv who w = ((forbidding sv who node).make w).1
  rw [← take_permission, Leaf.has, Leaf.take, permits, forbid]
  cases hs : sv.permissions with
  | false => simp
  | true => cases w.nodes with
    | none => simp
    | some ns => by_cases hc : node ∈ held ns who <;> simp [hc]

theorem takeEffect_eq_make (kind : Key) : w.takeEffect who kind = (curing who kind).make w := by
  cases hp : w.players.lookup who with
  | none => simp [takeEffect, make, curing, Portion.attempt, recipient, hp]
  | some p =>
    by_cases he : ∃ e ∈ p.effects, e.kind = kind
    · simp [takeEffect, make, curing, Portion.attempt, recipient, Player.powers, dropAll,
        Player.hasEffect, Player.dropEffect, hp, he]
    · simp [takeEffect, make, curing, Portion.attempt, recipient, Player.powers, dropAll,
        Player.hasEffect, hp, he]

theorem hasEffect_eq_isSome (kind : Key) : w.hasEffect who kind = (curing who kind w).isSome := by
  change w.hasEffect who kind = ((curing who kind).make w).1
  rw [← takeEffect_eq_make, hasEffect, takeEffect]
  cases w.players.lookup who with
  | none => rfl
  | some p => cases he : p.hasEffect kind <;> simp [he]

theorem takeStack_eq_make (m : Key) (n : Int) : w.takeStack who m n = (unloading who m n).make w := by
  cases hp : w.players.lookup who with
  | none => simp [takeStack, make, unloading, Portion.attempt, recipient, hp]
  | some p =>
    cases ht : p.slots.take? m n with
    | none => simp [takeStack, make, unloading, Portion.attempt, recipient, Player.storage, hp, ht]
    | some slots =>
      simp [takeStack, make, unloading, Portion.attempt, recipient, Player.storage, hp, ht]

theorem holds_eq_isSome {n : Int} (hw : w.Stocked who) (m : Key) (hn : 1 ≤ n) :
    w.holds who m n = (unloading who m n w).isSome := by
  cases hp : w.players.lookup who with
  | none => simp [holds, unloading, Portion.attempt, recipient, hp]
  | some p =>
    have hiff := Inventory.isSome_take?_iff (m := m) (hw p hp) hn
    rw [Bool.eq_iff_iff, holds, hp, decide_eq_true_eq, ← hiff]
    simp [unloading, Portion.attempt, recipient, Player.storage, hp]

end World

namespace Leaf

variable {sv : Services} {who : Text} {w : World}

/-- What a thing is given and taken from. -/
inductive Resource where
  | money
  | node (node : Text)
  | effect (kind : Key)
  | material (m : Key)
  | custom (c : Custom)
  deriving DecidableEq, Repr

def resource : Leaf → Resource
  | currency _ => .money
  | permission node => .node node
  | effect e => .effect e.kind
  | item i => .material i.material
  | stack s => .material s.material
  | custom c => .custom c

/-- Amounts are finite, and items are at least one. -/
def Takeable : Leaf → Prop
  | currency x => (Binary.ofFloat x).isFinite
  | permission _ | effect _ => True
  | item i => 1 ≤ i.amount
  | stack s => 1 ≤ s.amount
  | custom _ => False

instance : (l : Leaf) → Decidable l.Takeable
  | currency x => inferInstanceAs (Decidable ((Binary.ofFloat x).isFinite = true))
  | permission _ | effect _ => inferInstanceAs (Decidable True)
  | item i => inferInstanceAs (Decidable (1 ≤ i.amount))
  | stack s => inferInstanceAs (Decidable (1 ≤ s.amount))
  | custom _ => inferInstanceAs (Decidable False)

variable (sv who)

/-- The change of the world that taking a thing tries to make. -/
def removal : Leaf → Attempt World
  | currency x => World.spending sv who x
  | permission node => World.forbidding sv who node
  | effect e => World.curing who e.kind
  | item i => World.unloading who i.material i.amount
  | stack s => World.unloading who s.material s.amount
  | custom _ => fun _ => none

theorem take_eq_make (l : Leaf) (w : World) : l.take sv who w = (l.removal sv who).make w := by
  cases l with
  | currency x => exact World.take_currency x
  | permission node => exact World.take_permission node
  | effect e => exact World.takeEffect_eq_make e.kind
  | item i => exact World.takeStack_eq_make i.material i.amount
  | stack s => exact World.takeStack_eq_make s.material s.amount
  | custom c => rfl

variable {sv who}

/-- A thing is there exactly if it can be taken. -/
theorem has_eq_isSome {l : Leaf} (hl : l.Takeable) (hs : w.Stocked who)
    (hb : ∀ x, l = currency x → w.Reckons sv who) :
    l.has sv who w = (l.removal sv who w).isSome := by
  cases l with
  | currency x =>
    refine World.has_currency (fun hx => ?_) (hb x rfl)
    rw [Takeable, hx] at hl
    cases hl
  | permission node => exact World.has_permission node
  | effect e => exact World.hasEffect_eq_isSome e.kind
  | item i => exact World.holds_eq_isSome hs i.material hl
  | stack s => exact World.holds_eq_isSome hs s.material hl
  | custom c => cases hl

section Apart

theorem apart_spending {l : Leaf} (h : l.resource ≠ .money) (x : Float) :
    Apart (World.spending sv who x) (l.removal sv who) := by
  cases l with
  | currency y => exact absurd rfl h
  | permission node => exact (World.ledger_disjoint_grants sv).apart _ _
  | effect e => exact (World.ledger_disjoint_recipient sv who).apart _ _
  | item i => exact (World.ledger_disjoint_recipient sv who).apart _ _
  | stack s => exact (World.ledger_disjoint_recipient sv who).apart _ _
  | custom c => exact apart_refused _

theorem apart_forbidding {l : Leaf} {node : Text} (h : l.resource ≠ .node node) :
    Apart (World.forbidding sv who node) (l.removal sv who) := by
  cases l with
  | currency x => exact ((World.ledger_disjoint_grants sv).apart _ _).symm
  | permission node' =>
    refine Portion.apart_attempt (Portion.apart_attempt (apart_dropAll fun n hn => ?_) _) _
    rw [decide_eq_true_eq] at hn
    rw [hn, decide_eq_false_iff_not]
    rintro rfl
    exact h rfl
  | effect e => exact (World.grants_disjoint_recipient sv who).apart _ _
  | item i => exact (World.grants_disjoint_recipient sv who).apart _ _
  | stack s => exact (World.grants_disjoint_recipient sv who).apart _ _
  | custom c => exact apart_refused _

theorem apart_curing {l : Leaf} {e : Effect} (h : l.resource ≠ .effect e.kind) :
    Apart (World.curing who e.kind) (l.removal sv who) := by
  cases l with
  | currency x => exact ((World.ledger_disjoint_recipient sv who).apart _ _).symm
  | permission node => exact ((World.grants_disjoint_recipient sv who).apart _ _).symm
  | effect e' =>
    refine Portion.apart_attempt (Portion.apart_attempt (apart_dropAll fun a ha => ?_) _) _
    rw [decide_eq_true_eq] at ha
    rw [ha, decide_eq_false_iff_not]
    intro he
    exact h (by rw [resource, he])
  | item i => exact Portion.apart_attempt (Player.storage_disjoint_powers.apart _ _).symm _
  | stack s => exact Portion.apart_attempt (Player.storage_disjoint_powers.apart _ _).symm _
  | custom c => exact apart_refused _

theorem apart_unloading {l : Leaf} {m : Key} (h : l.resource ≠ .material m) (n : Int) :
    Apart (World.unloading who m n) (l.removal sv who) := by
  have hother (m' : Key) (hm : Resource.material m' ≠ .material m) (n' : Int) :
      Apart (World.unloading who m n) (World.unloading who m' n') := by
    have hne : m ≠ m' := fun he => hm (he ▸ rfl)
    exact Portion.apart_attempt (Portion.apart_attempt (Inventory.apart_take? hne n n') _) _
  cases l with
  | currency x => exact ((World.ledger_disjoint_recipient sv who).apart _ _).symm
  | permission node => exact ((World.grants_disjoint_recipient sv who).apart _ _).symm
  | effect e => exact Portion.apart_attempt (Player.storage_disjoint_powers.apart _ _) _
  | item i => exact hother i.material h i.amount
  | stack s => exact hother s.material h s.amount
  | custom c => exact apart_refused _

/-- Things that draw on different resources are taken independently of each other. -/
theorem apart_removal {l l' : Leaf} (h : l.resource ≠ l'.resource) :
    Apart (l.removal sv who) (l'.removal sv who) := by
  cases l with
  | currency x => exact apart_spending h.symm x
  | permission node => exact apart_forbidding h.symm
  | effect e => exact apart_curing h.symm
  | item i => exact apart_unloading h.symm i.amount
  | stack s => exact apart_unloading h.symm s.amount
  | custom c => exact (apart_refused _).symm

end Apart

end Leaf

namespace Grantable

variable (sv : Services) (who : Text)

mutual

theorem take_eq_makeEach : ∀ (g : Grantable) (w : World),
    take sv who g w = makeEach ((leaves g).map (Leaf.removal sv who)) w
  | leaf l, w => by
    rw [take, Leaf.take_eq_make, leaves, List.map_singleton]
    simp only [makeEach, Bool.and_true, make]
  | group gs, w => by rw [take, leaves, takeAll_eq_makeEach gs w]

theorem takeAll_eq_makeEach : ∀ (gs : List Grantable) (w : World),
    takeAll sv who gs w = makeEach ((leavesAll gs).map (Leaf.removal sv who)) w
  | [], w => by rw [takeAll, leavesAll, List.map_nil, makeEach]
  | g :: gs, w => by
    rw [leavesAll, List.map_append, makeEach_append, ← take_eq_makeEach g w,
      ← takeAll_eq_makeEach gs, takeAll]

end

mutual

theorem has_eq_all (w : World) : ∀ g, has sv who g w = (leaves g).all (·.has sv who w)
  | leaf l => by simp only [has, leaves, List.all_cons, List.all_nil, Bool.and_true]
  | group gs => by rw [has, leaves, hasAll_eq_all w gs]

theorem hasAll_eq_all (w : World) : ∀ gs, hasAll sv who gs w = (leavesAll gs).all (·.has sv who w)
  | [] => by rw [hasAll, leavesAll, List.all_nil]
  | g :: gs => by rw [hasAll, leavesAll, List.all_append, has_eq_all w g, hasAll_eq_all w gs]

end

variable {sv who} {g : Grantable} {w : World}

theorem pairwise_apart (hn : (g.leaves.map Leaf.resource).Nodup) :
    (g.leaves.map (Leaf.removal sv who)).Pairwise Apart :=
  List.pairwise_map.2 ((List.pairwise_map.1 hn).imp Leaf.apart_removal)

theorem take_eq_has (hl : ∀ l ∈ g.leaves, l.Takeable) (hn : (g.leaves.map Leaf.resource).Nodup)
    (hs : w.Stocked who) (hb : ∀ x, .currency x ∈ g.leaves → w.Reckons sv who) :
    (g.take sv who w).1 = g.has sv who w := by
  rw [take_eq_makeEach, makeEach_fst (pairwise_apart hn), has_eq_all, List.all_map]
  refine Bool.eq_iff_iff.2 ?_
  rw [List.all_eq_true, List.all_eq_true]
  refine forall₂_congr fun l hm => ?_
  rw [Function.comp_apply, Leaf.has_eq_isSome (hl l hm) hs fun x hx => hb x (hx ▸ hm)]

theorem take_perm (hn : (g.leaves.map Leaf.resource).Nodup) {g' : Grantable}
    (hp : g'.leaves.Perm g.leaves) : g'.take sv who w = g.take sv who w := by
  rw [take_eq_makeEach, take_eq_makeEach]
  exact makeEach_perm (pairwise_apart hn) (hp.map _) w

/-- If no two things of a group draw on the same resource, then taking the group, from a recipient of
whom every stack holds something, says what checking it said, and its things can come in any order, and
grouped in any way, for the same answer and the same world. Which services are at hand does not matter.
Where there is money in the group, the balance has to be a number for the check to be right, but not
for the order not to matter. -/
theorem independent_things {g : Grantable} (hl : ∀ l ∈ g.leaves, l.Takeable)
    (hn : (g.leaves.map Leaf.resource).Nodup) (sv : Services) (who : Text) {w : World}
    (hs : w.Stocked who) :
    ((∀ x, .currency x ∈ g.leaves → w.Reckons sv who) →
      (g.take sv who w).1 = g.has sv who w) ∧
    ∀ g' : Grantable, g'.leaves.Perm g.leaves → g'.take sv who w = g.take sv who w :=
  ⟨take_eq_has hl hn hs, fun _ => take_perm hn⟩

/-- No permissions are at hand, so the node is out of reach, and both checking and taking say no. The
other way round, and without the inner group, the answer and the world are the same. -/
theorem kit_in_any_order :
    let arrow : Key := ⟨262, "ARROW"⟩
    let arrows : Leaf := .item ⟨arrow, 2, 0, []⟩
    let speed : Leaf := .effect ⟨⟨1, "SPEED"⟩, 0, .endless⟩
    let g := group [leaf (.permission "kit"), group [leaf arrows, leaf (.currency 5.0)], leaf speed]
    let g' := group [leaf speed, leaf (.currency 5.0), leaf arrows, leaf (.permission "kit")]
    let world (n : Int) (effects : List ActiveEffect) (balance : Float) : World :=
      ⟨[("p", ⟨[some ⟨arrow, n, 0, [], none⟩], effects, true⟩)], some [("p", balance)], none⟩
    let w := world 3 [⟨⟨1, "SPEED"⟩, 0, 600⟩] 8.0
    (∀ l ∈ g.leaves, l.Takeable) ∧ (g.leaves.map Leaf.resource).Nodup ∧ w.Stocked "p" ∧
      w.Reckons ⟨true, false⟩ "p" ∧ g.has ⟨true, false⟩ "p" w = false ∧
      (g.take ⟨true, false⟩ "p" w).1 = false ∧
      g'.take ⟨true, false⟩ "p" w = g.take ⟨true, false⟩ "p" w := by
  intro arrow arrows speed g g' world w
  have hl : ∀ l ∈ g.leaves, l.Takeable := by decide
  have hn : (g.leaves.map Leaf.resource).Nodup := by decide
  have hs : w.Stocked "p" := by
    rintro p hp
    cases hp
    decide
  have hb : w.Reckons ⟨true, false⟩ "p" := by
    rintro - a ha
    cases ha
    decide
  have hreverse : g'.leaves = g.leaves.reverse := rfl
  obtain ⟨hanswer, horder⟩ := independent_things hl hn ⟨true, false⟩ "p" hs
  have hno : g.has ⟨true, false⟩ "p" w = false := by decide
  exact ⟨hl, hn, hs, hb, hno, (hanswer fun _ _ => hb).trans hno, horder g' (hreverse ▸ List.reverse_perm _)⟩

/-- Where the balance is not a number, money that the check says is not there is taken all the same. -/
theorem taken_though_not_there :
    let g := group [leaf (.currency 5.0)]
    let w : World := ⟨[("p", ⟨[none], [], true⟩)], some [("p", 0.0 / 0.0)], none⟩
    (∀ l ∈ g.leaves, l.Takeable) ∧ (0 : Float) < 5.0 ∧ (g.leaves.map Leaf.resource).Nodup ∧
      w.Stocked "p" ∧ g.has ⟨true, false⟩ "p" w = false ∧
      ¬(g.take ⟨true, false⟩ "p" w).1 = g.has ⟨true, false⟩ "p" w := by
  intro g w
  have hl : ∀ l ∈ g.leaves, l.Takeable := by decide
  have hs : w.Stocked "p" := by
    rintro p hp
    cases hp
    decide
  have hno : g.has ⟨true, false⟩ "p" w = false := by decide
  have hyes : (g.take ⟨true, false⟩ "p" w).1 = true := by decide
  exact ⟨hl, by decide, by decide, hs, hno, by rw [hyes, hno]; decide⟩

end Grantable

end Rewards
