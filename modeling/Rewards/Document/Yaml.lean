import Rewards.Document.Yaml.Node
import Rewards.Document.Yaml.Plain

/-! Reading a YAML document as a value. -/

namespace Rewards.Yaml

/-- Why a text has no value: it is not well formed, or a number has too many digits. -/
inductive Stop where
  | malformed
  | fault (f : Fault)
  deriving DecidableEq, Repr

/-- Tags that say how a scalar is to be read. -/
inductive Reading where
  | byForm | asText | asNull | asBool | asInt | asFloat
  deriving DecidableEq

def scalarReading? (tag : Option Text) (isPlain : Bool) : Option Reading :=
  match tag.map String.ofList with
  | none => some (if isPlain then .byForm else .asText)
  | some "!" => some .byForm
  | some "!!str" => some .asText
  | some "!!null" => some .asNull
  | some "!!bool" => some .asBool
  | some "!!int" => some .asInt
  | some "!!float" => some .asFloat
  | some _ => none

def scalarValue (r : Reading) (s : Text) : Except Stop Value :=
  match r with
  | .asText => .ok (.text s)
  | .asNull => .ok .null
  | r => do
    let v ← (plainValue s).mapError .fault
    match r, v with
    | .byForm, .text ['='] => .error .malformed
    | .byForm, v => .ok v
    | .asBool, .bool b => .ok (.bool b)
    | .asInt, .int n => .ok (.int n)
    | .asFloat, .float x => .ok (.float x)
    | .asFloat, .int n => .ok (.float (Float.ofInt n))
    | _, _ => .error .malformed

def isMerge : Node → Bool
  | .scalar none true s => s = ['<', '<']
  | _ => false

/-- The entries that a merge key brings in. -/
def mergedEntries : Node → Option (List (Node × Node))
  | .mapping _ es => some es
  | .sequence _ ns => do
    let parts ← ns.mapM fun n => match n with
      | .mapping _ es => some es
      | _ => none
    return parts.reverse.flatten
  | _ => none

/-- Collections cannot be keys. -/
def checkKey : Value → Except Stop Value
  | .list _ | .mapping _ => .error .malformed
  | v => .ok v

def collectionTag (tag : Option Text) (own : Text) : Bool :=
  match tag with
  | none => true
  | some t => t = own || t = ['!']

mutual

/-- The value of a node without aliases. Fuel bounds the depth of the tree. -/
def value : (fuel : Nat) → Node → Except Stop Value
  | 0, _ => .error .malformed
  | n + 1, node => match node with
    | .scalar tag isPlain s => match scalarReading? tag isPlain with
      | some r => scalarValue r s
      | none => .error .malformed
    | .sequence tag ns =>
      if collectionTag tag "!!seq" then do return .list (← values n ns) else .error .malformed
    | .mapping tag es =>
      if collectionTag tag "!!map" then do return .ofEntries (← entryValues n es)
      else .error .malformed
    | .anchored _ node => value n node
    | .aliasOf _ => .error .malformed

def values : (fuel : Nat) → List Node → Except Stop (List Value)
  | 0, _ => .error .malformed
  | _ + 1, [] => .ok []
  | n + 1, node :: ns => do return (← value n node) :: (← values n ns)

/-- Merged entries come before the entries of the mapping itself. -/
def entryValues : (fuel : Nat) → List (Node × Node) → Except Stop (List (Value × Value))
  | 0, _ => .error .malformed
  | n + 1, es => do
    let merged := (es.filter fun e => isMerge e.1).map fun e => mergedEntries e.2
    if merged.any (·.isNone) then .error .malformed
    let before := (merged.filterMap id).flatten
    if before.isEmpty then plainEntries n (es.filter fun e => !isMerge e.1)
    else return (← entryValues n before) ++ (← plainEntries n (es.filter fun e => !isMerge e.1))

def plainEntries : (fuel : Nat) → List (Node × Node) → Except Stop (List (Value × Value))
  | 0, _ => .error .malformed
  | _ + 1, [] => .ok []
  | n + 1, (k, v) :: es => do
    let key ← match k with
      | .scalar none true ['='] => pure (.text ['='])
      | k => value n k
    let key ← checkKey key
    let v ← value n v
    return (key, v) :: (← plainEntries n es)

end

mutual

def size : Node → Nat
  | .scalar .. | .aliasOf _ => 1
  | .sequence _ ns => sizeAll ns + 1
  | .mapping _ es => sizeEntries es + 1
  | .anchored _ n => size n + 1

def sizeAll : List Node → Nat
  | [] => 1
  | n :: ns => size n + sizeAll ns + 1

def sizeEntries : List (Node × Node) → Nat
  | [] => 1
  | (k, v) :: es => size k + size v + sizeEntries es + 2

end

/-- The value of the only document of a text; a text without one is null. -/
def document (s : Text) : Except Stop Value :=
  match (lexemes? s).bind Node.document? with
  | none => .error .malformed
  | some none => .ok .null
  | some (some node) => match node.resolve [] with
    | none => .error .malformed
    | some (node, _) => value (2 * size node + 2) node

end Rewards.Yaml
