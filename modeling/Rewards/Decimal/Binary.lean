/-!
A 64-bit float as what it stands for: not a number, an infinity, or a sign and `m · 2 ^ q`.
-/

namespace Rewards.Decimal

inductive Binary where
  | notANumber
  | infinite (negative : Bool)
  | finite (negative : Bool) (m : Nat) (q : Int)
  deriving DecidableEq, Repr

namespace Binary

-- Powers of natural numbers are their own, also where those of a monoid are known.
attribute [local instance (high)] instPowNat

/-- Sign, eleven bits of exponent and 52 of fraction, from the top. -/
def ofFloat (x : Float) : Binary :=
  let bits := x.toBits.toNat
  let negative := bits / 2 ^ (63 : Nat) == 1
  let exponent : Nat := bits / 2 ^ (52 : Nat) % 2 ^ (11 : Nat)
  let fraction : Nat := bits % 2 ^ (52 : Nat)
  if exponent == 2047 then
    if fraction == 0 then infinite negative else notANumber
  else if exponent == 0 then finite negative fraction (-1074)
  else finite negative (2 ^ (52 : Nat) + fraction) ((exponent : Int) - 1075)

def isFinite : Binary → Bool
  | finite .. => true
  | _ => false

/-- The integer that `m · 2 ^ q` is, if it is one. -/
def wholePart? (m : Nat) : Int → Option Nat
  | .ofNat n => some (m * 2 ^ n)
  | .negSucc n => if m % 2 ^ (n + 1) = 0 then some (m / 2 ^ (n + 1)) else none

def toInt? : Binary → Option Int
  | finite negative m q => (wholePart? m q).map fun n => if negative then -(n : Int) else n
  | _ => none

end Binary

/-- The integer that a float equals. -/
def integer? (x : Float) : Option Int := (Binary.ofFloat x).toInt?

end Rewards.Decimal
