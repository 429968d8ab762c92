import Rewards.Decimal.Binary

/-!
The fewest decimal digits that read back to a float. A decimal reads back to `m · 2 ^ q` when it
lies between the midpoints to the neighbouring floats, the midpoints included for even `m`. On the
grid of `k` digits only the two points around the value have to be tried, and the first grid with a
hit has the fewest digits.
-/

namespace Rewards.Decimal

/-- `digits · 10 ^ exponent`. -/
structure Digits where
  digits : Nat
  exponent : Int
  deriving DecidableEq, Repr

namespace Shortest

-- Powers of natural numbers are their own, also where those of a monoid are known.
attribute [local instance (high)] instPowNat

/-- A rational scale `num / den`. -/
structure Scale where
  num : Nat
  den : Nat

/-- The quarter unit `2 ^ (q - 2)` over the grid step `10 ^ p`. -/
def scale (q p : Int) : Scale where
  num := 2 ^ (q - 2).toNat * 10 ^ (-p).toNat
  den := 10 ^ p.toNat * 2 ^ (2 - q).toNat

/-- The float below a power of two is only half as far away. -/
def quarterBelow (m : Nat) (q : Int) : Nat :=
  if m = 2 ^ (52 : Nat) ∧ q ≠ -1074 then 4 * m - 1 else 4 * m - 2

def readsBack (m : Nat) (q : Int) (s : Scale) (d : Nat) : Bool :=
  let low := quarterBelow m q * s.num
  let high := (4 * m + 2) * s.num
  if m % 2 = 0 then low ≤ d * s.den && d * s.den ≤ high
  else low < d * s.den && d * s.den < high

/-- Of the two grid points around the value, the one that reads back; of two, the nearer one, and
in the middle the even one. -/
def onGrid? (m : Nat) (q p : Int) : Option Nat :=
  let s := scale q p
  let value := 4 * m * s.num
  let d := value / s.den
  match readsBack m q s d, readsBack m q s (d + 1) with
  | false, false => none
  | true, false => some d
  | false, true => some (d + 1)
  | true, true =>
    let past := 2 * (value - d * s.den)
    some (if past < s.den || (past == s.den && d % 2 == 0) then d else d + 1)

/-- The number of places before the point: `m · 2 ^ q` is below `10 ^ e` and not below
`10 ^ (e - 1)`. -/
def places (m : Nat) (q : Int) : Int :=
  let num := m * 2 ^ q.toNat
  let den := 2 ^ (-q).toNat
  if den ≤ num then ((Nat.toDigits 10 (num / den)).length : Int)
  else
    Int.negOfNat ((List.range 400).takeWhile fun j => num * 10 ^ (j + 1) < den).length

def stripZeros (d : Digits) : Nat → Digits
  | 0 => d
  | n + 1 => if d.digits % 10 = 0 ∧ d.digits ≠ 0 then
      stripZeros ⟨d.digits / 10, d.exponent + 1⟩ n
    else d

end Shortest

open Shortest in
/-- Seventeen digits always suffice, so the search ends. -/
def shortest (m : Nat) (q : Int) : Digits :=
  let e := places m q
  let hit := (List.range 17).findSome? fun (k : Nat) =>
    let p := e - (k + 1)
    (onGrid? m q p).map fun d => stripZeros ⟨d, p⟩ 20
  hit.getD ⟨m, q⟩

end Rewards.Decimal
