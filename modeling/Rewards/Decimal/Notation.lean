import Rewards.Text.Digit
import Rewards.Decimal.Shortest

/-! Laying out the digits of a number, positionally or with an exponent. -/

namespace Rewards.Decimal

/-- Decimal exponents from `least` to below `bound` are written positionally; others have at least
`exponentWidth` digits after the sign. -/
structure Layout where
  least : Int
  bound : Int
  exponentWidth : Nat

/-- Very small and very large numbers take an exponent, and whole ones end in `.0`. -/
def plainLayout : Layout := ⟨-4, 16, 2⟩

def zeros (n : Nat) : Text := List.replicate n '0'

def Layout.exponent (l : Layout) (e : Int) : Text :=
  let ds := Text.numeral e.natAbs
  'e' :: (if e < 0 then '-' else '+') :: zeros (l.exponentWidth - ds.length) ++ ds

def Layout.positional (ds : Text) (point : Int) : Text :=
  if point ≤ 0 then "0.".toList ++ zeros (-point).toNat ++ ds
  else if (ds.length : Int) ≤ point then ds ++ zeros (point - ds.length).toNat ++ ".0".toList
  else ds.take point.toNat ++ '.' :: ds.drop point.toNat

def Layout.scientific (l : Layout) (ds : Text) (e : Int) : Text :=
  match ds with
  | [] => l.exponent e
  | [d] => d :: l.exponent e
  | d :: rest => d :: '.' :: rest ++ l.exponent e

def Layout.write (l : Layout) (d : Digits) : Text :=
  let ds := Text.numeral d.digits
  let point := ds.length + d.exponent
  if l.least < point ∧ point ≤ l.bound then Layout.positional ds point
  else l.scientific ds (point - 1)

def signed (negative : Bool) (s : Text) : Text := if negative then '-' :: s else s

/-- The shortest text that reads back to the float. -/
def write (x : Float) : Text :=
  match Binary.ofFloat x with
  | .notANumber => "nan".toList
  | .infinite negative => signed negative "inf".toList
  | .finite negative m q =>
    signed negative (if m = 0 then "0.0".toList else plainLayout.write (shortest m q))

end Rewards.Decimal
