import Rewards.Text.Digit

/-!
Reading a decimal number: `5`, `.5`, `5.`, `12.25e-3`, with digits of any script. The parts of the
text come first, their value second.
-/

namespace Rewards.Decimal

open Text

/-- The parts of an unsigned number; `whole` and `fraction` are not both empty. -/
structure Parts where
  whole : Text
  fraction : Text
  exponent : Int

def sign : Text → Bool × Text
  | '-' :: s => (true, s)
  | '+' :: s => (false, s)
  | s => (false, s)

/-- A text of digits alone, and at least one. -/
def allDigits (s : Text) : Bool := !s.isEmpty && s.all isDigit

/-- The text after an exponent mark. -/
def exponent? (s : Text) : Option Int :=
  let (negative, ds) := sign s
  if allDigits ds then some (if negative then -(number ds : Int) else number ds) else none

def Parts.ofText? (s : Text) : Option Parts :=
  let whole := s.takeWhile isDigit
  let rest := s.dropWhile isDigit
  let (fraction, tail) := match rest with
    | '.' :: r => (r.takeWhile isDigit, r.dropWhile isDigit)
    | r => ([], r)
  if whole.isEmpty && fraction.isEmpty then none else
  match tail with
  | [] => some ⟨whole, fraction, 0⟩
  | c :: r => if c = 'e' ∨ c = 'E' then (exponent? r).map (⟨whole, fraction, ·⟩) else none

/-- `m · 10 ^ e`, rounded to a float. Past the ends of the range the answer is known without the
power. -/
def scaled (m : Nat) (e : Int) : Float :=
  let magnitude := (numeral m).length + e
  if m = 0 ∨ magnitude < -330 then 0.0
  else if 330 < magnitude then 1.0 / 0.0
  else Float.ofModel (Float.Model.ofScientific m e)

def Parts.value (p : Parts) : Float :=
  scaled (number (p.whole ++ p.fraction)) (p.exponent - p.fraction.length)

/-- The float nearest to the number that the whole text writes. -/
def read? (s : Text) : Option Float :=
  let (negative, body) := sign s
  (Parts.ofText? body).map fun p => if negative then -p.value else p.value

end Rewards.Decimal
