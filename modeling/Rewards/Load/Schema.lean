import Rewards.Document.Value
import Rewards.Load.Error
import Rewards.Text.Blank

/-!
The shape of a reward file: a list of arenas, each with a name, tables of wave rewards, rewards for
completion and items for classes. All that is wrong with a value is reported, in the order of the
fields, and of the entries in the file.
-/

namespace Rewards

open Text

/-- Descriptors by wave. -/
abbrev WaveTexts := Assoc Int Text

structure ArenaTemplate where
  name : Text
  every : WaveTexts
  after : WaveTexts
  completion : Option Text
  classItems : Assoc Text Text
  deriving DecidableEq, Repr

namespace Schema

/-- A value, or everything that is wrong with it. -/
abbrev Checked (α : Type) := Except (List Problem) α

abbrev Path := List Step

def flaw {α : Type} (path : Path) (f : SchemaFlaw) : Checked α := .error [⟨path, f⟩]

/-- Both values, or the problems of the first and then those of the second. -/
def both {α β : Type} (a : Checked α) (b : Checked β) : Checked (α × β) :=
  match a, b with
  | .ok a, .ok b => .ok (a, b)
  | .ok _, .error q => .error q
  | .error p, .ok _ => .error p
  | .error p, .error q => .error (p ++ q)

def all {α : Type} : List (Checked α) → Checked (List α)
  | [] => .ok []
  | c :: cs => (both c (all cs)).map fun p => p.1 :: p.2

theorem both_eq_ok_iff {α β : Type} {a : Checked α} {b : Checked β} {x : α} {y : β} :
    both a b = .ok (x, y) ↔ a = .ok x ∧ b = .ok y := by
  cases a <;> cases b <;> simp [both]

def checkText (path : Path) : Value → Checked Text
  | .text t => .ok t
  | _ => flaw path .notText

/-- White space around a number; the information separators do not count as such. -/
def isMargin (c : Char) : Bool := isBlank c && !(0x1c ≤ c.toNat && c.toNat ≤ 0x1f)

/-- Leaves out zeros in front, and underscores among them, but not the last of these characters if
no digit follows. -/
def stripZeros : Text → Text
  | '0' :: s =>
    let skipped := s.takeWhile fun c => c = '0' ∨ c = '_'
    match s.drop skipped.length with
    | [] => [skipped.getLast?.getD '0']
    | '.' :: r => skipped.getLast?.getD '0' :: '.' :: r
    | r => r
  | s => s

/-- Leaves out a point that only zeros follow. -/
def stripPoint (s : Text) : Text :=
  match cut '.' s with
  | (whole, some fraction) => if fraction.all (· = '0') then whole else s
  | (_, none) => s

/-- Digits, with single underscores between them. -/
def isGrouped (s : Text) : Bool :=
  (pieces '_' s).all fun p => !p.isEmpty && p.all isAsciiDigit

/-- The whole number that a text writes: `7`, `+07`, `1_000`, `3.0`. -/
def wholeNumber? (t : Text) : Option Int :=
  let t := dropTail isMargin (t.dropWhile isMargin)
  let (negative, digits) := match t with
    | '-' :: s => (true, s)
    | '+' :: s => (false, s)
    | s => (false, s)
  let digits := stripPoint (stripZeros digits)
  if isGrouped digits then
    let n := number (digits.filter (· ≠ '_'))
    some (if negative then -(n : Int) else n)
  else none

def checkInteger (path : Path) : Value → Checked Int
  | .int n => .ok n
  | .bool b => .ok (if b then 1 else 0)
  | .float x =>
    if (Decimal.Binary.ofFloat x).isFinite then
      match Decimal.integer? x with
      | some n => .ok n
      | none => flaw path .fractional
    else flaw path .notFinite
  | .text t =>
    if maxDigits < t.length then flaw path .longInteger
    else match wholeNumber? t with
      | some n => .ok n
      | none => flaw path .unreadableInteger
  | _ => flaw path .notInteger

/-- A key as a step: numbers that can be written by value, anything else by its text. -/
def keyStep : Value → Step
  | .int n => match Text.written n with
    | .ok _ => .index n
    | .error _ => .key "<unprintable int object>"
  | .bool b => .index (if b then 1 else 0)
  | v => .key v.shown

/-- The entries of a mapping; of each, the key is checked before the value. -/
def checkEntries {α β : Type} (path : Path) (key : Path → Value → Checked α)
    (value : Path → Value → Checked β) : Value → Checked (List (α × β))
  | .mapping es => all <| es.map fun e =>
    let here := path ++ [keyStep e.1]
    both (key (here ++ [.key "[key]"]) e.1) (value here e.2)
  | _ => flaw path .notMapping

/-- Waves count from 1; the first that does not is reported. -/
def checkWaves (path : Path) (v : Value) : Checked WaveTexts := do
  let table := Assoc.ofList (← checkEntries path checkInteger checkText v)
  match table.find? fun e => e.1 < 1 with
  | some e => flaw path (.wavePositive e.1)
  | none => .ok table

/-- A field that may be left out. -/
def optionalField {α : Type} (path : Path) (name : Text) (default : α)
    (check : Path → Value → Checked α) (entries : List (Value × Value)) : Checked α :=
  match Value.field? entries name with
  | some v => check (path ++ [.key name]) v
  | none => .ok default

def checkWaveTables (path : Path) : Value → Checked (WaveTexts × WaveTexts)
  | .mapping es => both (optionalField path "every" [] checkWaves es)
      (optionalField path "after" [] checkWaves es)
  | _ => flaw path .notRecord

def checkCompletion (path : Path) : Value → Checked (Option Text)
  | .null => .ok none
  | v => (checkText path v).map some

def checkArena (path : Path) : Value → Checked ArenaTemplate
  | .mapping es =>
    let name := match Value.field? es "name" with
      | some v => checkText (path ++ [.key "name"]) v
      | none => flaw (path ++ [.key "name"]) .missing
    let waves := optionalField path "waves" ([], []) checkWaveTables es
    let completion := optionalField path "completion" none checkCompletion es
    let classes := optionalField path "class_items" [] (checkEntries · checkText checkText) es
    (both name (both waves (both completion classes))).map fun (n, w, c, k) => ⟨n, w.1, w.2, c, k⟩
  | _ => flaw path .notRecord

def checkArenas (path : Path) : Value → Checked (List ArenaTemplate)
  | .list vs => all <| vs.zipIdx.map fun (v, i) => checkArena (path ++ [.index i]) v
  | _ => flaw path .notList

/-- The arenas of a reward file. -/
def checkFile : Value → Checked (List ArenaTemplate)
  | .mapping es => optionalField [] "arenas" [] checkArenas es
  | _ => flaw [] .notRecord

end Schema

end Rewards
