import Rewards.World

/-!
Granting, taking and checking through whatever keeps players, money and permissions. A host offers the
operations on a state of its own, and each may fail. A `World` is the host that the commands use.
-/

namespace Rewards

/-- Something done to the state of a host. What it changed stays changed where it fails. -/
abbrev Deed (ε σ α : Type) := ExceptT ε (StateM σ) α

namespace Deed

variable {ε σ α : Type}

def run (x : Deed ε σ α) (s : σ) : Except ε α × σ := Id.run (StateT.run (ExceptT.run x) s)

/-- A deed that does not fail. -/
def step (f : σ → α × σ) : Deed ε σ α := ExceptT.mk fun s => (.ok (f s).1, (f s).2)

end Deed

/-- The one who receives. -/
structure Recipient (ε σ : Type) where
  name : Text
  /-- The answer is what did not fit. -/
  addItem (s : Stack) : Deed ε σ (List Stack)
  contents : Deed ε σ Inventory
  setContents (slots : Inventory) : Deed ε σ Unit
  activeEffects : Deed ε σ (List ActiveEffect)
  addEffect (e : ActiveEffect) : Deed ε σ Bool
  removeEffect (kind : Key) : Deed ε σ Unit

structure Economy (ε σ : Type) where
  deposit (account : Text) (x : Float) : Deed ε σ Bool
  withdraw (account : Text) (x : Float) : Deed ε σ Bool
  has (account : Text) (x : Float) : Deed ε σ Bool

structure Permissions (ε σ : Type) where
  add (who node : Text) : Deed ε σ Bool
  remove (who node : Text) : Deed ε σ Bool
  has (who node : Text) : Deed ε σ Bool

/-- A recipient, the services that are at hand, and what the grantables of clients do. -/
structure Host (ε σ : Type) extends Recipient ε σ where
  economy : Option (Economy ε σ)
  permissions : Option (Permissions ε σ)
  grantCustom (c : Custom) : Deed ε σ Bool
  takeCustom (c : Custom) : Deed ε σ Bool
  hasCustom (c : Custom) : Deed ε σ Bool

variable {ε σ : Type}

namespace Host

def giveStack (h : Host ε σ) (s : Stack) : Deed ε σ Bool := return (← h.addItem s).isEmpty

/-- The slots are written back only if all of the amount was found. -/
def takeStack (h : Host ε σ) (m : Key) (amount : Int) : Deed ε σ Bool := do
  match (← h.contents).take? m amount with
  | none => return false
  | some slots =>
    h.setContents slots
    return true

def holds (h : Host ε σ) (m : Key) (amount : Int) : Deed ε σ Bool :=
  return amount ≤ (← h.contents).count m

def hasEffect (h : Host ε σ) (kind : Key) : Deed ε σ Bool :=
  return (← h.activeEffects).any (·.kind = kind)

def takeEffect (h : Host ε σ) (kind : Key) : Deed ε σ Bool := do
  if ← h.hasEffect kind then
    h.removeEffect kind
    return true
  else return false

/-- What a service answers; a missing one answers no. -/
def ask {α : Type} (service : Option α) (f : α → Deed ε σ Bool) : Deed ε σ Bool :=
  match service with
  | none => pure false
  | some a => f a

end Host

namespace Leaf

def grantBy (h : Host ε σ) : Leaf → Deed ε σ Bool
  | currency x => Host.ask h.economy (·.deposit h.name x)
  | permission node => Host.ask h.permissions (·.add h.name node)
  | effect e => h.addEffect ⟨e.kind, e.amplifier, e.duration.ticks⟩
  | item i => h.giveStack i.toStack
  | stack s => h.giveStack s
  | custom c => h.grantCustom c

def takeBy (h : Host ε σ) : Leaf → Deed ε σ Bool
  | currency x => Host.ask h.economy (·.withdraw h.name x)
  | permission node => Host.ask h.permissions (·.remove h.name node)
  | effect e => h.takeEffect e.kind
  | item i => h.takeStack i.material i.amount
  | stack s => h.takeStack s.material s.amount
  | custom c => h.takeCustom c

def hasBy (h : Host ε σ) : Leaf → Deed ε σ Bool
  | currency x => Host.ask h.economy (·.has h.name x)
  | permission node => Host.ask h.permissions (·.has h.name node)
  | effect e => h.hasEffect e.kind
  | item i => h.holds i.material i.amount
  | stack s => h.holds s.material s.amount
  | custom c => h.hasCustom c

end Leaf

namespace Grantable

mutual

/-- A group does every element, even after one that answers no. -/
def perform (act : Leaf → Deed ε σ Bool) : Grantable → Deed ε σ Bool
  | leaf l => act l
  | group gs => performAll act gs

def performAll (act : Leaf → Deed ε σ Bool) : List Grantable → Deed ε σ Bool
  | [] => pure true
  | g :: gs => do
    let one ← perform act g
    let rest ← performAll act gs
    return one && rest

end

mutual

/-- A group asks no element after one that answers no. -/
def check (ask : Leaf → Deed ε σ Bool) : Grantable → Deed ε σ Bool
  | leaf l => ask l
  | group gs => checkAll ask gs

def checkAll (ask : Leaf → Deed ε σ Bool) : List Grantable → Deed ε σ Bool
  | [] => pure true
  | g :: gs => do if ← check ask g then checkAll ask gs else return false

end

def grantBy (h : Host ε σ) : Grantable → Deed ε σ Bool := perform (Leaf.grantBy h)

def takeBy (h : Host ε σ) : Grantable → Deed ε σ Bool := perform (Leaf.takeBy h)

def hasBy (h : Host ε σ) : Grantable → Deed ε σ Bool := check (Leaf.hasBy h)

end Grantable

namespace World

def economy : Economy Empty World where
  deposit account x := .step (deposit account x)
  withdraw account x := .step (withdraw account x)
  has account x := .step fun w => (w.affords account x, w)

def permissions : Permissions Empty World where
  add who node := .step (permit who node)
  remove who node := .step (forbid who node)
  has who node := .step fun w => (w.permits who node, w)

/-- A player of the world, with the services at hand. Nothing fails here. -/
def host (sv : Services) (who : Text) : Host Empty World where
  name := who
  addItem s := .step fun w => (if (w.giveStack who s).1 then [] else [s], (w.giveStack who s).2)
  contents := .step fun w => (((w.players.lookup who).map (·.slots)).getD [], w)
  setContents slots := .step fun w => ((), match w.players.lookup who with
    | none => w
    | some p => w.setPlayer who { p with slots })
  activeEffects := .step fun w => (((w.players.lookup who).map (·.effects)).getD [], w)
  addEffect e := .step (giveEffect who e)
  removeEffect kind := .step fun w => ((), match w.players.lookup who with
    | none => w
    | some p => w.setPlayer who (p.dropEffect kind))
  economy := if sv.economy then some economy else none
  permissions := if sv.permissions then some permissions else none
  grantCustom _ := pure false
  takeCustom _ := pure false
  hasCustom _ := pure false

end World

end Rewards
