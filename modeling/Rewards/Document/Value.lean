import Rewards.Assoc
import Rewards.Decimal.Notation

/-! The values that a document holds. -/

namespace Rewards

inductive Value where
  | null
  | bool (b : Bool)
  | int (n : Int)
  | float (x : Float)
  | text (t : Text)
  /-- A scalar of another type, with the text that shows it. -/
  | other (shown : Text)
  | list (elements : List Value)
  | mapping (entries : List (Value × Value))
  deriving Repr, Inhabited

namespace Value

/-- The number that a scalar counts as, if it is a whole one. -/
def whole? : Value → Option Int
  | bool b => some (if b then 1 else 0)
  | int n => some n
  | float x => Decimal.integer? x
  | _ => none

/-- Keys are the same if they are the same number, or the same text. -/
def sameKey (a b : Value) : Bool :=
  match a, b with
  | null, null => true
  | text s, text t => s == t
  | other s, other t => s == t
  | float x, float y => x == y
  | a, b => match a.whole?, b.whole? with
    | some m, some n => m == n
    | _, _ => false

/-- The text of a scalar as a step on the way to a value. -/
def shown : Value → Text
  | null => "None".toList
  | bool b => if b then "True".toList else "False".toList
  | int n => Text.integer n
  | float x => Decimal.write x
  | text t => t
  | other t => t
  | list _ | mapping _ => []

/-- A key that comes again keeps its place and takes the new value. -/
def putEntry (k v : Value) : List (Value × Value) → List (Value × Value)
  | [] => [(k, v)]
  | e :: es => if e.1.sameKey k then (e.1, v) :: es else e :: putEntry k v es

def ofEntries (es : List (Value × Value)) : Value :=
  mapping (es.foldl (fun m e => putEntry e.1 e.2 m) [])

/-- The value under a text key. -/
def field? (entries : List (Value × Value)) (name : Text) : Option Value :=
  (entries.find? fun e => e.1.sameKey (text name)).map (·.2)

end Value

end Rewards
