import Rewards.Failure
import Rewards.Text.Blank

/-!
How long an effect lasts: for ever, or a positive number of whole seconds. The game counts ticks,
and one count stands for "for ever"; no whole number of seconds comes to that count.
-/

namespace Rewards

open Text

inductive Duration where
  | endless
  | seconds (n : Nat) (pos : 0 < n)
  deriving DecidableEq, Repr

namespace Duration

-- Powers of natural numbers are their own, also where those of a monoid are known.
attribute [local instance (high)] instPowNat

def ticksPerSecond : Nat := 20

def endlessTicks : Nat := 2 ^ (31 : Nat) - 1

def ticks : Duration → Nat
  | endless => endlessTicks
  | seconds n _ => n * ticksPerSecond

/-- Counts that are not positive last for ever; others are rounded up to whole seconds. -/
def ofTicks (t : Int) : Duration :=
  if h : t ≤ 0 then endless
  else if t = endlessTicks then endless
  else seconds ((t.toNat + 19) / ticksPerSecond) (by simp only [ticksPerSecond]; omega)

theorem ticks_seconds_ne_endless (n : Nat) (h : 0 < n) : (seconds n h).ticks ≠ endless.ticks := by
  simp only [ticks, ticksPerSecond, endlessTicks]; omega

theorem ticks_injective {d e : Duration} (h : d.ticks = e.ticks) : d = e := by
  cases d <;> cases e
  · rfl
  · exact absurd h.symm (ticks_seconds_ne_endless _ _)
  · exact absurd h (ticks_seconds_ne_endless _ _)
  · simp only [ticks, ticksPerSecond] at h
    simp only [seconds.injEq]; omega

theorem ofTicks_ticks (d : Duration) : ofTicks d.ticks = d := by
  cases d with
  | endless => decide
  | seconds n h =>
    have hp : ¬ ((n * 20 : Nat) : Int) ≤ 0 := by omega
    have he : ¬ ((n * 20 : Nat) : Int) = endlessTicks := by simp only [endlessTicks]; omega
    change ofTicks (n * 20 : Nat) = _
    rw [ofTicks, dif_neg hp, if_neg he]
    simp only [seconds.injEq, ticksPerSecond]
    omega

/-- Hours, minutes and seconds, of which only those that are not zero are written; `0s` if all
are. -/
def formatTicks (ticks : Int) : Except Fault Text := do
  let total := ticks / ticksPerSecond
  let hours := total / 3600
  let minutes := total % 3600 / 60
  let seconds := total % 60
  let part (n : Int) (unit : Char) : Except Fault Text :=
    if n = 0 then pure [] else (· ++ [unit]) <$> written n
  let s := (← part hours 'h') ++ (← part minutes 'm') ++ (← part seconds 's')
  return if s.isEmpty then ['0', 's'] else s

/-- The number of seconds in a unit. -/
def unitSeconds? (unit : Char) : Option Nat :=
  match unit.toLower with
  | 's' => some 1
  | 'm' => some 60
  | 'h' => some 3600
  | _ => none

/-- The letters of the units in either case. The long s passes for one of them, although no unit
is written with it. -/
def isUnit (c : Char) : Bool := (unitSeconds? c).isSome || c = 'ſ'

/-- Pairs of a number and a unit, which the whole text has to consist of. -/
def unitPairs? : (digits : Text) → Text → Option (List (Text × Char))
  | digits, [] => if digits.isEmpty then some [] else none
  | digits, c :: s =>
    if isDigit c then unitPairs? (digits ++ [c]) s
    else if isUnit c ∧ digits ≠ [] then (unitPairs? [] s).map ((digits, c) :: ·)
    else none

def pairSeconds (p : Text × Char) : Except Fault Nat := do
  let n ← natural p.1
  match unitSeconds? p.2 with
  | some k => return n * k
  | none => .error (.unknownUnit p.2)

/-- Seconds are a numeral, or the sum of number and unit pairs. -/
def readSeconds (t : Text) : Except Failure Nat := do
  if t.all isAsciiDigit then (natural t).mapError .broken
  else match unitPairs? [] t with
    | some [] | none => refuse .duration t
    | some pairs => return ((← pairs.mapM pairSeconds |>.mapError Failure.broken).foldl (· + ·) 0)

def read (text : Option Text) : Except Failure Duration := do
  let t := trim (text.getD [])
  if t.isEmpty then .error (.refused (.lack .duration))
  let n ← readSeconds t
  if h : 0 < n then return seconds n h
  else .error (.refused (.value (.durationZero t)))

end Duration

end Rewards
