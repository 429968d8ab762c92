import Rewards.Assoc
import Rewards.Catalog.Tables

/-! Item stacks as an inventory holds them, and the enchantments on them. -/

namespace Rewards

/-- Levels by name, in the order in which the names were first set. -/
abbrev Enchantments := Assoc Text Int

namespace Enchantments

/-- The same levels under the same names, in whatever order. -/
def same (a b : Enchantments) : Bool :=
  a.length == b.length && a.all fun e => b.lookup e.1 == some e.2

/-- The enchantments of the catalog by their numbers, in ascending order. -/
def numbered (es : Enchantments) : List (Nat × Int) :=
  let known := es.filterMap fun e =>
    (Catalog.named? Catalog.enchantments e.1).map fun k => (k.id, e.2)
  known.mergeSort fun a b => a.1 ≤ b.1

/-- `id:level` pairs between semicolons. -/
def canonical (es : Enchantments) : Except Fault Text := do
  let pairs ← (numbered es).mapM fun e => do
    return Text.numeral e.1 ++ ':' :: (← Text.written e.2)
  return Text.joined [';'] pairs

end Enchantments

/-- A stack in the form that the game keeps. -/
structure Stack where
  material : Key
  amount : Int
  data : Int
  enchantments : Enchantments
  displayName : Option Text
  deriving DecidableEq, Repr

end Rewards
