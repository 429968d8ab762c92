import Rewards.Decimal.Notation
import Rewards.Decimal.Reading
import Rewards.Label

/-! Amounts of money: `$5`, `$3.14`, `eco:5`. -/

namespace Rewards.Currency

open Text

def label : Label := ⟨some "eco(nomy)", some "$"⟩

def opening : Opening := ⟨(Keyword.ofText? "eco(nomy)".toList).getD .done, some '$'⟩

/-- The amount that a body writes; it has to be finite. -/
def ofBody (body : Text) : Except Failure Float :=
  let b := trim body
  if b.isEmpty then .error (.refused (.lack .currency))
  else match Decimal.read? b with
    | none => refuse .currency b
    | some x =>
      if (Decimal.Binary.ofFloat x).isFinite then .ok x
      else .error (.refused (.value (.currencyRange b)))

/-- The symbol alone is an empty amount. -/
def read (text : Option Text) : Except Failure Float := do
  let t ← Subject.currency.require text
  ofBody (if trim t = ['$'] then [] else opening.strip (trim t))

/-- Whole amounts have no point. -/
def canonical (x : Float) : Except Fault Text :=
  match Decimal.Binary.ofFloat x with
  | .notANumber => .error .notANumber
  | .infinite _ => .error .infinite
  | b => match b.toInt? with
    | some n => ('$' :: ·) <$> written n
    | none => .ok ('$' :: Decimal.write x)

end Rewards.Currency
