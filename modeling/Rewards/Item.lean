import Rewards.Outcome
import Rewards.Stack

/-!
Items: a material, optionally with a data value and an amount (`wool:red:5`), and after a space its
enchantments (`bow 48:2;50:1`).
-/

namespace Rewards

open Text Catalog

structure Item where
  material : Key
  amount : Int
  data : Int
  enchantments : Enchantments
  deriving DecidableEq, Repr

namespace Item

def maxData : Nat := 15

/-- Potions keep their kind in the data value. -/
def maxPotionData : Nat := 32767

/-- Wool is stored with its colours in the opposite order. -/
def storedData (material : Key) (data : Int) : Int :=
  if material = wool then maxData - data else data

theorem storedData_storedData (m : Key) (d : Int) : storedData m (storedData m d) = d := by
  unfold storedData; split <;> omega

def toStack (i : Item) : Stack :=
  ⟨i.material, i.amount, storedData i.material i.data, i.enchantments, none⟩

/-- A display name is lost. -/
def ofStack (s : Stack) : Item :=
  ⟨s.material, s.amount, storedData s.material s.data, s.enchantments⟩

theorem ofStack_toStack (i : Item) : ofStack (toStack i) = i := by
  simp [ofStack, toStack, storedData_storedData]

/-- Equal up to the order of the enchantments. -/
def same (a b : Item) : Bool :=
  a.material == b.material && a.amount == b.amount && a.data == b.data &&
    a.enchantments.same b.enchantments

/-- Names of the catalog in lower case. -/
def lowerName (k : Key) : Text := k.name.map Char.toLower

/-- The data value is left out at 0, and an amount of 1 where no data value is written. -/
def canonical (i : Item) : Except Fault Text := do
  let data ← if i.data = 0 then pure [] else (':' :: ·) <$> written i.data
  let amount ← if 1 < i.amount ∨ i.data ≠ 0 then (':' :: ·) <$> written i.amount else pure []
  let enchantments ← i.enchantments.canonical
  let tail := if enchantments.isEmpty then [] else ' ' :: enchantments
  return lowerName i.material ++ data ++ amount ++ tail

/-- A name, and how many if not one. -/
def counted (name : Text) (amount : Int) : Except Fault Text :=
  if amount = 1 then .ok name else (name ++ " x".toList ++ ·) <$> written amount

def display (i : Item) : Except Fault Text := counted (lowerName i.material) i.amount

/-- A numeral within the limit of readable digits. -/
def readNatural (t : Text) : Except Failure Nat := (natural t).mapError .broken

def readMaterial (t : Text) : Except Failure Key := do
  match ← (material? t).mapError Failure.broken with
  | some m => return m
  | none => refuse (if isNumeral t then .itemId else .itemName) t

def readData (material : Key) (t : Text) : Except Failure Nat := do
  if isNumeral t then
    let n ← readNatural t
    if (if material = potion then maxPotionData else maxData) < n then refuse .data t else return n
  else match dye? t with
    | some d => return d.id
    | none => refuse .color t

def readAmount (t : Text) : Except Failure Nat := do
  if isNumeral t then
    let n ← readNatural t
    if n < 1 then refuse .amount t else return n
  else refuse .amount t

/-- `material`, `material:amount` or `material:data:amount`. -/
def readBase (t : Text) : Except Failure Item :=
  match pieces ':' t with
  | [m] => do return ⟨← readMaterial m, 1, 0, []⟩
  | [m, a] => do
    let material ← readMaterial m
    return ⟨material, ← readAmount a, 0, []⟩
  | [m, d, a] => do
    let material ← readMaterial m
    let data ← readData material d
    return ⟨material, ← readAmount a, data, []⟩
  | _ => refuse .itemSyntax t

/-- A numeral that may have a sign, which the limit of digits does not count. -/
def readLevel (t : Text) : Except Failure Int := do
  let (negative, digits) := match t with
    | '-' :: s => (true, s)
    | '+' :: s => (false, s)
    | s => (false, s)
  if isNumeral digits then
    let n ← readNatural digits
    return if negative then -(n : Int) else n
  else refuse .level t

def readEnchantment (entry : Text) : Except Failure (Text × Int) := do
  match pieces ':' entry with
  | [e, l] =>
    match ← (enchantment? e).mapError Failure.broken with
    | some k => return (k.name, ← readLevel l)
    | none => refuse .enchantment e
  | _ => refuse .enchantmentSyntax entry

/-- Entries between semicolons; empty ones count for nothing. -/
def readEnchantments (t : Text) : Except Failure Enchantments := do
  let entries := ((pieces ';' t).map trim).filter (!·.isEmpty)
  return Assoc.ofList (← Outcome.each readEnchantment entries)

/-- An item from a trimmed text that is not empty. -/
def ofToken (t : Text) : Except Failure Item := do
  let (head, tail) := cut ' ' t
  let base ← readBase head
  return { base with enchantments := ← readEnchantments (trim (tail.getD [])) }

def read (text : Option Text) : Except Failure Item :=
  let t := trim (text.getD [])
  if t.isEmpty then .error (.refused (.lack (.item text))) else ofToken t

end Item

namespace Stack

/-- Air is the empty stack and has no descriptor. -/
def canonical? (s : Stack) : Except Fault (Option Text) :=
  if s.material = air then .ok none else some <$> (Item.ofStack s).canonical

/-- The display name, or else the name of the material, and how many. -/
def display (s : Stack) : Except Fault Text :=
  let name := match s.displayName with
    | some (c :: n) => c :: n
    | _ => Item.lowerName s.material
  Item.counted name s.amount

/-- The descriptors of the stacks in the slots, leaving out empty slots and air. -/
def describeAll (slots : List (Option Stack)) : Except Fault Text := do
  let each ← (slots.filterMap id).mapM canonical?
  return joined ", ".toList (each.filterMap id)

end Stack

end Rewards
