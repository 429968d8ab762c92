import Rewards.Decimal.Reading
import Rewards.Document.Place
import Rewards.Document.Value
import Rewards.Failure

/-!
Reading JSON. A fault is reported with its place in the text. Three names of numbers that are not
finite are accepted as well, and of fields with one name the last counts.
-/

namespace Rewards.Json

open Text

/-- What the reader looked for in vain. -/
inductive Flaw where
  | byteOrderMark | value | name | colon | comma | extra
  | openText | control | escape | unicodeEscape
  deriving DecidableEq, Repr

def Flaw.message : Flaw → Text
  | byteOrderMark => "Unexpected UTF-8 BOM (decode using utf-8-sig)"
  | value => "Expecting value"
  | name => "Expecting property name enclosed in double quotes"
  | colon => "Expecting ':' delimiter"
  | comma => "Expecting ',' delimiter"
  | extra => "Extra data"
  | openText => "Unterminated string starting at"
  | control => "Invalid control character at"
  | escape => "Invalid \\escape"
  | unicodeEscape => "Invalid \\uXXXX escape"

/-- Reading stops with `left` characters of the text from the place of the flaw on. -/
inductive Stop where
  | flaw (f : Flaw) (left : Nat)
  | fault (f : Fault)
  deriving DecidableEq, Repr

abbrev Reading := Except Stop

def stop {α : Type} (f : Flaw) (rest : Text) : Reading (α × Text) := .error (.flaw f rest.length)

def isSpace (c : Char) : Bool := c = ' ' || c = '\t' || c = '\n' || c = '\r'

def skip (s : Text) : Text := s.dropWhile isSpace

/-- The text after a word that it starts with. -/
def after? (word : Text) (s : Text) : Option Text :=
  if s.take word.length = word then some (s.drop word.length) else none

/-- The number of four hexadecimal digits, which may not end the text. -/
def hex4? (s : Text) : Option Nat :=
  if s.length ≤ 4 then none else hexNumber? (s.take 4)

def simpleEscape? : Char → Option Char
  | '"' => some '"'
  | '\\' => some '\\'
  | '/' => some '/'
  | 'b' => some '\x08'
  | 'f' => some '\x0c'
  | 'n' => some '\n'
  | 'r' => some '\r'
  | 't' => some '\t'
  | _ => none

/-- The character whose second half is escaped at the start of `rest`. -/
def pair? (high : Nat) (rest : Text) : Option Char :=
  if 0xd800 ≤ high ∧ high < 0xdc00 then
    match rest with
    | '\\' :: 'u' :: t => do
      let low ← hex4? t
      if 0xdc00 ≤ low ∧ low < 0xe000 then
        some (Char.ofNat (0x10000 + (high - 0xd800) * 0x400 + (low - 0xdc00)))
      else none
    | _ => none
  else none

/-- A half without its other half has no character of its own. -/
def loneChar (n : Nat) : Char := if 0xd800 ≤ n ∧ n < 0xe000 then '\ufffd' else Char.ofNat n

/-- The character that hexadecimal digits stand for, and how many characters write it: four digits,
or two fours with a second `\u` between them. -/
def escapedChar? (r : Text) : Option (Char × Nat) := do
  let n ← hex4? r
  match pair? n (r.drop 4) with
  | some c => return (c, 10)
  | none => return (loneChar n, 4)

/-- The rest of a text between quotes, whose opening quote starts `quoted`. -/
def textBody (quoted : Text) : Text → Reading (Text × Text)
  | [] => stop .openText quoted
  | '"' :: s => .ok ([], s)
  | ['\\'] => stop .openText quoted
  | '\\' :: 'u' :: r =>
    match escapedChar? r with
    | some (c, n) => do
      let (cs, t) ← textBody quoted (r.drop n)
      return (c :: cs, t)
    | none => stop .unicodeEscape ('u' :: r)
  | '\\' :: e :: r =>
    match simpleEscape? e with
    | some c => do
      let (cs, t) ← textBody quoted r
      return (c :: cs, t)
    | none => stop .escape ('\\' :: e :: r)
  | c :: s =>
    if c.toNat ≤ 0x1f then stop .control (c :: s)
    else do
      let (cs, t) ← textBody quoted s
      return (c :: cs, t)
termination_by s => s.length
decreasing_by all_goals simp only [List.length_cons, List.length_drop]; omega

/-- The characters of a number: sign and whole part, fraction, exponent. -/
def numeral? (s : Text) : Option (Text × Text × Text × Text) :=
  let (sign, s) := match s with
    | '-' :: r => (['-'], r)
    | r => ([], r)
  let whole := match s with
    | '0' :: _ => ['0']
    | r => r.takeWhile isAsciiDigit
  if whole.isEmpty then none
  else
    let s := s.drop whole.length
    let fraction := match s with
      | '.' :: r =>
        let digits := r.takeWhile isAsciiDigit
        if digits.isEmpty then [] else '.' :: digits
      | _ => []
    let s := s.drop fraction.length
    let exponent := match s with
      | e :: r =>
        if e = 'e' ∨ e = 'E' then
          let sign := r.takeWhile (fun c => c = '+' ∨ c = '-') |>.take 1
          let digits := (r.drop sign.length).takeWhile isAsciiDigit
          if digits.isEmpty then [] else e :: sign ++ digits
        else []
      | [] => []
    some (sign ++ whole, fraction, exponent, s.drop exponent.length)

def readNumber (s : Text) : Reading (Value × Text) :=
  match numeral? s with
  | none => stop .value s
  | some (whole, [], [], rest) =>
    let (negative, digits) := Decimal.sign whole
    match natural digits with
    | .ok n => .ok (.int (if negative then -(n : Int) else n), rest)
    | .error f => .error (.fault f)
  | some (whole, fraction, exponent, rest) =>
    .ok (.float ((Decimal.read? (whole ++ fraction ++ exponent)).getD 0.0), rest)

def words : List (Text × Value) := [
  ("null".toList, .null), ("true".toList, .bool true), ("false".toList, .bool false),
  ("NaN".toList, .float (0.0 / 0.0)), ("Infinity".toList, .float (1.0 / 0.0)),
  ("-Infinity".toList, .float (-1.0 / 0.0))]

def word? (s : Text) : Option (Value × Text) :=
  words.findSome? fun w => (after? w.1 s).map fun rest => (w.2, rest)

mutual

/-- A value that starts right here. Every step of the recursion uses up a character, so as much
fuel as there are characters will do. -/
def value : (fuel : Nat) → Text → Reading (Value × Text)
  | 0, s => stop .value s
  | n + 1, s => match s with
    | '"' :: r => do
      let (t, r) ← textBody s r
      return (.text t, r)
    | '[' :: r => match skip r with
      | ']' :: r => .ok (.list [], r)
      | r => do
        let (vs, r) ← elements n r
        return (.list vs, r)
    | '\x7b' :: r => match skip r with
      | '\x7d' :: r => .ok (.mapping [], r)
      | r => do
        let (es, r) ← fields n r
        return (.ofEntries es, r)
    | s => match word? s with
      | some (v, r) => .ok (v, r)
      | none => readNumber s

/-- Values between commas, up to the closing bracket. -/
def elements : (fuel : Nat) → Text → Reading (List Value × Text)
  | 0, s => stop .value s
  | n + 1, s => do
    let (v, r) ← value n s
    match skip r with
    | ']' :: r => return ([v], r)
    | ',' :: r => do
      let (vs, r) ← elements n (skip r)
      return (v :: vs, r)
    | r => stop .comma r

/-- Named values between commas, up to the closing brace. -/
def fields : (fuel : Nat) → Text → Reading (List (Value × Value) × Text)
  | 0, s => stop .value s
  | n + 1, s => match s with
    | '"' :: r => do
      let (k, r) ← textBody s r
      match skip r with
      | ':' :: r => do
        let (v, r) ← value n (skip r)
        match skip r with
        | '\x7d' :: r => return ([(.text k, v)], r)
        | ',' :: r => do
          let (es, r) ← fields n (skip r)
          return ((.text k, v) :: es, r)
        | r => stop .comma r
      | r => stop .colon r
    | s => stop .name s

end

/-- The value that the whole text writes. -/
def document (s : Text) : Except Stop Value :=
  if s.head? = some '\ufeff' then .error (.flaw .byteOrderMark s.length)
  else do
    let (v, r) ← value (s.length + 1) (skip s)
    match skip r with
    | [] => return v
    | r => .error (.flaw .extra r.length)

/-- The place in a text that has `left` characters from there on. -/
def place (s : Text) (left : Nat) : Place := placeAfter (s.take (s.length - left))

end Rewards.Json
