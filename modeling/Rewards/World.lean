import Rewards.Grantable
import Rewards.World.Inventory

/-!
The world that grantables act on: players with inventories and effects, accounts of money, and
permission nodes. Money and permissions need a backend, which may be missing.
-/

namespace Rewards

structure ActiveEffect where
  kind : Key
  amplifier : Int
  ticks : Nat
  deriving DecidableEq, Repr

structure Player where
  slots : Inventory
  effects : List ActiveEffect
  acceptsEffects : Bool
  deriving DecidableEq, Repr

structure World where
  players : Assoc Text Player
  accounts : Option (Assoc Text Float)
  nodes : Option (Assoc Text (List Text))

/-- Which backends are at hand; a backend that the world lacks is of no use. -/
structure Services where
  economy : Bool
  permissions : Bool
  deriving DecidableEq, Repr

namespace Player

def hasEffect (kind : Key) (p : Player) : Bool := p.effects.any (·.kind = kind)

def dropEffect (kind : Key) (p : Player) : Player :=
  { p with effects := p.effects.filter (·.kind ≠ kind) }

/-- A new effect takes the place of one of its kind. -/
def addEffect (e : ActiveEffect) (p : Player) : Player :=
  { p with effects := (p.dropEffect e.kind).effects ++ [e] }

end Player

namespace World

/-- An account that does not exist is empty. -/
def balance (accounts : Assoc Text Float) (who : Text) : Float := (accounts.lookup who).getD 0.0

def held (nodes : Assoc Text (List Text)) (who : Text) : List Text := (nodes.lookup who).getD []

def setPlayer (who : Text) (p : Player) (w : World) : World :=
  { w with players := w.players.put who p }

def giveStack (who : Text) (s : Stack) (w : World) : Bool × World :=
  match w.players.lookup who with
  | none => (false, w)
  | some p => match p.slots.add? s with
    | none => (false, w)
    | some slots => (true, w.setPlayer who { p with slots })

def takeStack (who : Text) (m : Key) (amount : Int) (w : World) : Bool × World :=
  match w.players.lookup who with
  | none => (false, w)
  | some p => match p.slots.take? m amount with
    | none => (false, w)
    | some slots => (true, w.setPlayer who { p with slots })

def holds (who : Text) (m : Key) (amount : Int) (w : World) : Bool :=
  match w.players.lookup who with
  | none => false
  | some p => amount ≤ p.slots.count m

def giveEffect (who : Text) (e : ActiveEffect) (w : World) : Bool × World :=
  match w.players.lookup who with
  | none => (false, w)
  | some p => if p.acceptsEffects then (true, w.setPlayer who (p.addEffect e)) else (false, w)

def takeEffect (who : Text) (kind : Key) (w : World) : Bool × World :=
  match w.players.lookup who with
  | none => (false, w)
  | some p => if p.hasEffect kind then (true, w.setPlayer who (p.dropEffect kind)) else (false, w)

def hasEffect (who : Text) (kind : Key) (w : World) : Bool :=
  match w.players.lookup who with
  | none => false
  | some p => p.hasEffect kind

def deposit (who : Text) (x : Float) (w : World) : Bool × World :=
  match w.accounts with
  | none => (false, w)
  | some a => (true, { w with accounts := some (a.put who (balance a who + x)) })

def withdraw (who : Text) (x : Float) (w : World) : Bool × World :=
  match w.accounts with
  | none => (false, w)
  | some a =>
    -- NaN is not above any balance, so it is withdrawn although nobody affords it.
    if balance a who < x then (false, w)
    else (true, { w with accounts := some (a.put who (balance a who - x)) })

def affords (who : Text) (x : Float) (w : World) : Bool :=
  match w.accounts with
  | none => false
  | some a => x ≤ balance a who

def permit (who node : Text) (w : World) : Bool × World :=
  match w.nodes with
  | none => (false, w)
  | some ns =>
    let old := held ns who
    (true, { w with nodes := some (ns.put who (if old.contains node then old else old ++ [node])) })

def forbid (who node : Text) (w : World) : Bool × World :=
  match w.nodes with
  | none => (false, w)
  | some ns =>
    let old := held ns who
    if old.contains node then (true, { w with nodes := some (ns.put who (old.filter (· ≠ node))) })
    else (false, w)

def permits (who node : Text) (w : World) : Bool :=
  match w.nodes with
  | none => false
  | some ns => (held ns who).contains node

end World

namespace Leaf

/-- Gives a player one thing; the answer says whether all of it arrived. -/
def grant (sv : Services) (who : Text) (l : Leaf) (w : World) : Bool × World :=
  match l with
  | currency x => if sv.economy then w.deposit who x else (false, w)
  | permission node => if sv.permissions then w.permit who node else (false, w)
  | effect e => w.giveEffect who ⟨e.kind, e.amplifier, e.duration.ticks⟩
  | item i => w.giveStack who i.toStack
  | stack s => w.giveStack who s
  | custom _ => (false, w)

/-- Takes one thing away; nothing changes if the player does not have it. -/
def take (sv : Services) (who : Text) (l : Leaf) (w : World) : Bool × World :=
  match l with
  | currency x => if sv.economy then w.withdraw who x else (false, w)
  | permission node => if sv.permissions then w.forbid who node else (false, w)
  | effect e => w.takeEffect who e.kind
  | item i => w.takeStack who i.material i.amount
  | stack s => w.takeStack who s.material s.amount
  | custom _ => (false, w)

def has (sv : Services) (who : Text) (l : Leaf) (w : World) : Bool :=
  match l with
  | currency x => sv.economy && w.affords who x
  | permission node => sv.permissions && w.permits who node
  | effect e => w.hasEffect who e.kind
  | item i => w.holds who i.material i.amount
  | stack s => w.holds who s.material s.amount
  | custom _ => false

end Leaf

namespace Grantable

mutual

/-- A group is granted element by element, even after one fails. -/
def grant (sv : Services) (who : Text) (g : Grantable) (w : World) : Bool × World :=
  match g with
  | leaf l => l.grant sv who w
  | group gs => grantAll sv who gs w

def grantAll (sv : Services) (who : Text) (gs : List Grantable) (w : World) : Bool × World :=
  match gs with
  | [] => (true, w)
  | g :: gs =>
    let (one, w) := grant sv who g w
    let (rest, w) := grantAll sv who gs w
    (one && rest, w)

end

mutual

/-- A group is taken element by element, even after one fails. -/
def take (sv : Services) (who : Text) (g : Grantable) (w : World) : Bool × World :=
  match g with
  | leaf l => l.take sv who w
  | group gs => takeAll sv who gs w

def takeAll (sv : Services) (who : Text) (gs : List Grantable) (w : World) : Bool × World :=
  match gs with
  | [] => (true, w)
  | g :: gs =>
    let (one, w) := take sv who g w
    let (rest, w) := takeAll sv who gs w
    (one && rest, w)

end

mutual

def has (sv : Services) (who : Text) (g : Grantable) (w : World) : Bool :=
  match g with
  | leaf l => l.has sv who w
  | group gs => hasAll sv who gs w

def hasAll (sv : Services) (who : Text) (gs : List Grantable) (w : World) : Bool :=
  match gs with
  | [] => true
  | g :: gs => has sv who g w && hasAll sv who gs w

end

end Grantable

end Rewards
