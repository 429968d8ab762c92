import Rewards.Decimal.Reading
import Rewards.Document.Value
import Rewards.Failure

/-!
The value of a plain scalar: a truth value, a number, nothing, a date, or else its text. Whole
numbers may be binary, octal, hexadecimal or in base sixty (`1:30` is ninety), and underscores do
not count.
-/

namespace Rewards.Yaml

open Text

def trueWords : List Text :=
  ["yes", "Yes", "YES", "true", "True", "TRUE", "on", "On", "ON"].map String.toList

def falseWords : List Text :=
  ["no", "No", "NO", "false", "False", "FALSE", "off", "Off", "OFF"].map String.toList

def nullWords : List Text := ["", "~", "null", "Null", "NULL"].map String.toList

def infinityWords : List Text := [".inf", ".Inf", ".INF"].map String.toList

def nanWords : List Text := [".nan", ".NaN", ".NAN"].map String.toList

def ungrouped (s : Text) : Text := s.filter (· ≠ '_')

def isDigitOrMark (c : Char) : Bool := isAsciiDigit c || c = '_'

def isOctal (c : Char) : Bool := ('0' ≤ c && c ≤ '7') || c = '_'

def isBinary (c : Char) : Bool := c = '0' || c = '1' || c = '_'

def isHex (c : Char) : Bool := (hexDigit? c).isSome || c = '_'

def inBase (base : Nat) (s : Text) : Nat :=
  (ungrouped s).foldl (fun n c => base * n + (hexDigit? c).getD 0) 0

/-- One or two digits below sixty. -/
def isSixtieth : Text → Bool
  | [d] => isAsciiDigit d
  | [t, d] => '0' ≤ t && t ≤ '5' && isAsciiDigit d
  | _ => false

/-- A sign, which does not count for the form of what follows. -/
def unsigned (s : Text) : Bool × Text := Decimal.sign s

/-- The number that digits and underscores write; underscores alone write none. -/
def based (base : Nat) (s : Text) : Except Fault Nat :=
  if (ungrouped s).isEmpty then .error (.noDigits base) else .ok (inBase base s)

/-- A number without its sign. -/
def magnitude? (s : Text) : Option (Except Fault Nat) :=
  match s with
  | '0' :: 'b' :: r => if !r.isEmpty && r.all isBinary then some (based 2 r) else none
  | '0' :: 'x' :: r => if !r.isEmpty && r.all isHex then some (based 16 r) else none
  | '0' :: r => if r.all isOctal then some (.ok (inBase 8 r)) else none
  | d :: _ =>
    if !isAsciiDigit d then none
    else if s.all isDigitOrMark then some (natural (ungrouped s))
    else match pieces ':' s with
      | first :: rest =>
        if first.all isDigitOrMark && !rest.isEmpty && rest.all isSixtieth then
          some ((natural (ungrouped first)).map fun n =>
            rest.foldl (fun n p => 60 * n + number p) n)
        else none
      | [] => none
  | [] => none

def integer? (s : Text) : Option (Except Fault Int) :=
  let (negative, body) := unsigned s
  (magnitude? body).map fun x => x.map fun n => if negative then -(n : Int) else n

/-- An exponent needs its sign. -/
def isExponent : Text → Bool
  | [] => true
  | e :: s :: ds =>
    (e = 'e' || e = 'E') && (s = '+' || s = '-') && !ds.isEmpty && ds.all isAsciiDigit
  | _ => false

/-- Digits, a point and further digits; no digit is needed after the point if one stands before. -/
def isFraction (s : Text) : Bool :=
  match cut '.' s with
  | (whole, some r) =>
    let tail := r.dropWhile isDigitOrMark
    isExponent tail && match whole, r with
      | [], d :: _ => isAsciiDigit d
      | [], [] => false
      | w :: _, _ => isAsciiDigit w && whole.all isDigitOrMark
  | _ => false

/-- A number in base sixty whose last place has a fraction. -/
def sixtieths? (s : Text) : Option Float :=
  match cut '.' s with
  | (whole, some r) => match pieces ':' whole with
    | first :: second :: rest =>
      if first.head?.any isAsciiDigit && first.all isDigitOrMark &&
          (second :: rest).all isSixtieth && r.all isDigitOrMark then
        let parts := (pieces ':' (ungrouped s)).reverse.map fun p => (Decimal.read? p).getD 0.0
        let add (acc : Float × Float) (p : Float) := (acc.1 + p * acc.2, acc.2 * 60.0)
        some (parts.foldl add (0.0, 1.0)).1
      else none
    | _ => none
  | _ => none

def float? (s : Text) : Option Float :=
  let (negative, body) := unsigned s
  let signed (x : Float) : Float := if negative then -x else x
  if infinityWords.contains body then some (signed (1.0 / 0.0))
  else if nanWords.contains s then some (0.0 / 0.0)
  else if isFraction body && (body.head? ≠ some '.' || body == s) then
    (Decimal.read? (ungrouped body)).map signed
  else (sixtieths? body).map signed

/-- What follows a run of digits, if it has as many as it should. -/
def afterDigits? (least most : Nat) (s : Text) : Option Text :=
  let n := (s.takeWhile isAsciiDigit).length
  if least ≤ n ∧ n ≤ most then some (s.drop n) else none

def afterChar? (c : Char) : Text → Option Text
  | d :: s => if d = c then some s else none
  | [] => none

def isDay (s : Text) : Bool :=
  s.map (fun c => if isAsciiDigit c then '0' else c) = "0000-00-00".toList

/-- The hours, and perhaps minutes, by which a time zone differs. -/
def isZone (s : Text) : Bool :=
  match s.dropWhile fun c => c = ' ' || c = '\t' with
  | ['Z'] => true
  | sign :: r => (sign = '+' || sign = '-') && match afterDigits? 1 2 r with
    | some [] => true
    | some r => (afterChar? ':' r).bind (afterDigits? 2 2) == some []
    | none => false
  | [] => false

/-- A day, a time of day and perhaps a time zone. -/
def isMoment (s : Text) : Bool :=
  let rest : Option Text := do
    let s ← afterChar? '-' (← afterDigits? 4 4 s)
    let s ← afterChar? '-' (← afterDigits? 1 2 s)
    let s ← afterDigits? 1 2 s
    let s ← match s with
      | c :: r =>
        if c = 'T' ∨ c = 't' then some r
        else if c = ' ' ∨ c = '\t' then some (r.dropWhile fun c => c = ' ' || c = '\t')
        else none
      | [] => none
    let s ← afterChar? ':' (← afterDigits? 1 2 s)
    let s ← afterChar? ':' (← afterDigits? 2 2 s)
    let s ← afterDigits? 2 2 s
    return ((afterChar? '.' s).map (·.dropWhile isAsciiDigit)).getD s
  rest.any fun s => s.isEmpty || isZone s

/-- The value of a plain scalar. -/
def plainValue (s : Text) : Except Fault Value :=
  if trueWords.contains s then .ok (.bool true)
  else if falseWords.contains s then .ok (.bool false)
  else if nullWords.contains s then .ok .null
  else match float? s, integer? s with
    | some x, _ => .ok (.float x)
    | none, some n => n.map .int
    | none, none => .ok (if isDay s || isMoment s then .other s else .text s)

end Rewards.Yaml
