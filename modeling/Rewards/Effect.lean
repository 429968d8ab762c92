import Rewards.Effect.Duration
import Rewards.Item
import Rewards.Label

/-!
Timed effects. A body names the effect, and may go on with its strength and how long it lasts:
`speed`, `speed II`, `speed 30s`, `speed 3 1m30s`. Strength is written from 1 and kept from 0.
-/

namespace Rewards

open Text Catalog

structure Effect where
  kind : Key
  amplifier : Int
  duration : Duration
  deriving DecidableEq, Repr

namespace Effect

def label : Label := ⟨some "eff(ect)", some "@"⟩

def opening : Opening := ⟨(Keyword.ofText? "eff(ect)".toList).getD .done, some '@'⟩

def romans : List (Text × Nat) :=
  [("I".toList, 0), ("II".toList, 1), ("III".toList, 2), ("IV".toList, 3), ("V".toList, 4)]

def readAmplifier (text : Option Text) : Except Failure Nat :=
  let t := trim (text.getD [])
  if t.isEmpty then .error (.refused (.lack .amplifier))
  else match romans.lookup (upper t) with
    | some n => .ok n
    | none =>
      if t.all isAsciiDigit then (natural t).mapError .broken |>.map (· - 1)
      else refuse .amplifier t

/-- The capital letter of a roman numeral that the character passes for, the dotted and the
dotless i included. -/
def romanLetter (c : Char) : Char :=
  if c = 'i' ∨ c = 'ı' ∨ c = 'İ' then 'I' else if c = 'v' then 'V' else c

/-- One or two digits, or a roman numeral: of two parts, the second is then a strength. -/
def looksLikeAmplifier (t : Text) : Bool :=
  (t.all isDigit && (t.length == 1 || t.length == 2)) ||
    (romans.lookup (t.map romanLetter)).isSome

def ofBody (body : Text) : Except Failure Effect := do
  let body := trim body
  match words body with
  | [] => .error (.refused (.lack .effect))
  | name :: rest =>
    if 2 < rest.length then refuse .effectSyntax body
    let some kind ← (effect? name).mapError Failure.broken | refuse .effect name
    match rest with
    | [] => return ⟨kind, 0, .endless⟩
    | [a] =>
      if looksLikeAmplifier a then return ⟨kind, ← readAmplifier (some a), .endless⟩
      else return ⟨kind, 0, ← Duration.read (some a)⟩
    | a :: d :: _ =>
      let amplifier ← readAmplifier (some a)
      return ⟨kind, amplifier, ← Duration.read (some d)⟩

def read (text : Option Text) : Except Failure Effect := do
  let t ← Subject.effect.require text
  ofBody (opening.strip (trim t))

/-- The strength is left out if it is the least and the effect lasts for ever. -/
def canonical (e : Effect) : Except Fault Text := do
  let name := "eff:".toList ++ Item.lowerName e.kind
  match e.duration with
  | .endless =>
    if e.amplifier = 0 then return name
    else return name ++ ' ' :: (← written (e.amplifier + 1))
  | d => return name ++ ' ' :: (← written (e.amplifier + 1))
      ++ ' ' :: (← Duration.formatTicks d.ticks)

end Effect

end Rewards
