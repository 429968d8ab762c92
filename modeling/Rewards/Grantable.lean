import Rewards.Currency
import Rewards.Effect
import Rewards.Permission

/-!
Everything that can be granted: single things, and groups of grantables nested to any depth. Each
has a canonical descriptor and a text for showing it.
-/

namespace Rewards

open Text

/-- A grantable of a kind that a client has registered: the body as its reader got it, and by which
reader. -/
structure Custom where
  kind : Text
  reader : Text
  body : Text
  deriving DecidableEq, Repr

inductive Leaf where
  | currency (value : Float)
  | permission (node : Text)
  | effect (e : Effect)
  | item (i : Item)
  | stack (s : Stack)
  | custom (c : Custom)
  deriving Repr

inductive Grantable where
  | leaf (l : Leaf)
  | group (elements : List Grantable)
  deriving Repr

namespace Leaf

def kindName : Leaf → Text
  | currency _ => "Currency"
  | permission _ => "Permission"
  | effect _ => "Effect"
  | item _ => "Item"
  | stack _ => "StackItem"
  | custom c => c.kind

def canonical : Leaf → Except Fault Text
  | currency x => Currency.canonical x
  | permission node => .ok (Permission.canonical node)
  | effect e => e.canonical
  | item i => i.canonical
  | stack s => (·.getD []) <$> s.canonical?
  | custom c => .ok (c.kind ++ '<' :: c.body ++ ['>'])

def bracketed (kind inner : Text) : Text := kind ++ '[' :: inner ++ [']']

def display : Leaf → Except Fault Text
  | currency x => bracketed "Currency" <$> Currency.canonical x
  | permission node => .ok (bracketed "Permission" node)
  | effect e => bracketed "Effect" <$> e.canonical
  | item i => i.display
  | stack s => s.display
  | custom c => .ok (c.kind ++ '<' :: c.body ++ ['>'])

/-- Two stacks, like two custom grantables, are never the same one. -/
def same : Leaf → Leaf → Bool
  | currency x, currency y => x == y
  | permission a, permission b => a == b
  | effect a, effect b => a == b
  | item a, item b => a.same b
  | _, _ => false

end Leaf

namespace Grantable

def kindName : Grantable → Text
  | leaf l => l.kindName
  | group _ => "Group"

mutual

def canonical : Grantable → Except Fault Text
  | leaf l => l.canonical
  | group gs => return '(' :: joined ", ".toList (← canonicals gs) ++ [')']

def canonicals : List Grantable → Except Fault (List Text)
  | [] => .ok []
  | g :: gs => return (← canonical g) :: (← canonicals gs)

end

mutual

def display : Grantable → Except Fault Text
  | leaf l => l.display
  | group gs => return "Group[\x7b".toList ++ joined ", ".toList (← displays gs) ++ "\x7d]".toList

def displays : List Grantable → Except Fault (List Text)
  | [] => .ok []
  | g :: gs => return (← display g) :: (← displays gs)

end

mutual

def same : Grantable → Grantable → Bool
  | leaf a, leaf b => a.same b
  | group as, group bs => sameAll as bs
  | _, _ => false

def sameAll : List Grantable → List Grantable → Bool
  | [], [] => true
  | a :: as, b :: bs => same a b && sameAll as bs
  | _, _ => false

end

mutual

/-- The single things of a grantable, from left to right. -/
def leaves : Grantable → List Leaf
  | leaf l => [l]
  | group gs => leavesAll gs

def leavesAll : List Grantable → List Leaf
  | [] => []
  | g :: gs => leaves g ++ leavesAll gs

end

/-- The descriptor of a list of grantables. -/
def describe (gs : List Grantable) : Except Fault Text := joined ", ".toList <$> canonicals gs

def elements : Grantable → List Grantable
  | leaf _ => []
  | group gs => gs

/-- Counts from the front, or with a negative index from the back. -/
def element? (g : Grantable) (index : Int) : Option Grantable :=
  let n := g.elements.length
  if 0 ≤ index then g.elements[index.toNat]?
  else if -index ≤ n then g.elements[n - index.natAbs]?
  else none

def add (g : Grantable) (element : Grantable) : Grantable := group (g.elements ++ [element])

end Grantable

end Rewards
