import Rewards.Grantable
import Rewards.Text.Quoted

/-! Grantables written out in full, with every part by name. -/

namespace Rewards

open Text

/-- `kind(part=value, …)`. -/
def call (kind : Text) (parts : List (Text × Text)) : Text :=
  kind ++ '(' :: joined ", ".toList (parts.map fun p => p.1 ++ '=' :: p.2) ++ [')']

def Key.literal (kind : Text) (k : Key) : Text :=
  call kind [("id", numeral k.id), ("name", Text.literal k.name)]

def Enchantments.literal (es : Enchantments) : Except Fault Text := do
  let entries ← es.mapM fun e => do
    return Text.literal e.1 ++ ": ".toList ++ (← written e.2)
  return '\x7b' :: joined ", ".toList entries ++ ['\x7d']

def Item.literal (i : Item) : Except Fault Text := do
  return call "Item" [("material", i.material.literal "Material"), ("amount", ← written i.amount),
    ("data", ← written i.data), ("enchantments", ← i.enchantments.literal)]

def Stack.literal (s : Stack) : Except Fault Text := do
  let name := match s.displayName with
    | none => "None".toList
    | some n => Text.literal n
  return call "ItemStack" [("material", s.material.literal "Material"),
    ("amount", ← written s.amount), ("data", ← written s.data),
    ("enchantments", ← s.enchantments.literal), ("display_name", name)]

def Leaf.literal : Leaf → Except Fault Text
  | currency x => .ok (call "Currency" [("value", Decimal.write x)])
  | permission node => .ok (call "Permission" [("permission", Text.literal node)])
  | effect e => return call "Effect" [("effect_type", e.kind.literal "EffectType"),
      ("amplifier", ← written e.amplifier), ("duration", ← written e.duration.ticks)]
  | item i => i.literal
  | stack s => return "StackItem(".toList ++ (← s.literal) ++ [')']
  | custom c => .ok (c.kind ++ '<' :: c.body ++ ['>'])

namespace Grantable

mutual

def literal : Grantable → Except Fault Text
  | leaf l => l.literal
  | group gs => return "Group([".toList ++ joined ", ".toList (← literals gs) ++ "])".toList

def literals : List Grantable → Except Fault (List Text)
  | [] => .ok []
  | g :: gs => return (← literal g) :: (← literals gs)

end

end Grantable

end Rewards
