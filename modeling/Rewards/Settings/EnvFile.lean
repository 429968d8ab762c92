import Rewards.Assoc
import Rewards.Text.Blank

/-!
Files of lines that give values to names. A line that is no such assignment is passed over, and a
value may call for that of a name given before.
-/

namespace Rewards.EnvFile

open Text

/-- A name may stand alone, without a value. -/
structure Assignment where
  name : Text
  value : Option Text
  deriving DecidableEq, Repr

/-- White space inside a line. -/
def isGap (c : Char) : Bool := isBlank c && c != '\n'

def isNameChar (c : Char) : Bool := !isBlank c && c != '=' && c != '#'

/-- Something read and what follows it, or the text at which reading fails. -/
abbrev Reading (α : Type) := Except Text (α × Text)

/-- A comment has no name. -/
def readName (s : Text) : Reading (Option Text) :=
  match s with
  | '#' :: _ => .ok (none, s)
  | '\'' :: r => match cut '\'' r with
    | (c :: name, some rest) => .ok (some (c :: name), rest)
    | _ => .error s
  | _ =>
    let name := s.takeWhile isNameChar
    if name.isEmpty then .error s else .ok (some name, s.drop name.length)

/-- The text up to the closing quote, and what follows it. A quote after a backslash closes the text
only if no other does; of several such, the last one does. -/
def upToQuote? (quote : Char) : Text → Option (Text × Text)
  | [] => none
  | c :: s =>
    if c = quote then some ([], s)
    else if c = '\\' ∧ s.head? = some quote then
      match upToQuote? quote s.tail with
      | some (t, rest) => some (c :: quote :: t, rest)
      | none => some ([c], s.tail)
    else (upToQuote? quote s).map fun p => (c :: p.1, p.2)
termination_by s => s.length
decreasing_by all_goals simp only [List.length_cons, List.length_tail]; omega

/-- What a backslash before a character stands for, between double quotes. -/
def escape? : Char → Option Char
  | '\\' => some '\\'
  | '\'' => some '\''
  | '"' => some '"'
  | 'a' => some '\x07'
  | 'b' => some '\x08'
  | 'f' => some '\x0c'
  | 'n' => some '\n'
  | 'r' => some '\r'
  | 't' => some '\t'
  | 'v' => some '\x0b'
  | _ => none

def unescaped (escape? : Char → Option Char) : Text → Text
  | '\\' :: c :: s => match escape? c with
    | some d => d :: unescaped escape? s
    | none => '\\' :: unescaped escape? (c :: s)
  | c :: s => c :: unescaped escape? s
  | [] => []

/-- Between single quotes only the quote and the backslash itself are escaped. -/
def singleEscape? (c : Char) : Option Char := if c = '\\' ∨ c = '\'' then some c else none

/-- The text before a number sign that white space precedes. -/
def beforeComment : Text → Text
  | c :: d :: s => if isBlank c ∧ d = '#' then [] else c :: beforeComment (d :: s)
  | s => s

def readQuoted (quote : Char) (escape? : Char → Option Char) (s : Text) : Reading Text :=
  match upToQuote? quote s.tail with
  | some (t, rest) => .ok (unescaped escape? t, rest)
  | none => .error s

def readValue (s : Text) : Reading Text :=
  match s with
  | '\'' :: _ => readQuoted '\'' singleEscape? s
  | '"' :: _ => readQuoted '"' escape? s
  | _ =>
    let line := s.takeWhile (· ≠ '\n')
    .ok (dropTail isBlank (beforeComment line), s.drop line.length)

/-- A line ends here if only a comment follows. -/
def readEnd (s : Text) : Reading Unit :=
  let s := if (s.dropWhile isGap).head? = some '#' then s.dropWhile (· ≠ '\n') else s
  match s.dropWhile isGap with
  | [] => .ok ((), [])
  | '\n' :: rest => .ok ((), rest)
  | _ => .error s

def afterExport (s : Text) : Text :=
  let word := "export".toList
  if s.take 6 = word ∧ (s[6]?).any isGap then (s.drop 6).dropWhile isGap else s

def readAssignment (s : Text) : Except Text (Option Assignment × Text) := do
  let (name, s) ← readName (afterExport s)
  let s := s.dropWhile isGap
  let (value, s) ← match s with
    | '=' :: r => do
      let (v, rest) ← readValue (r.dropWhile isGap)
      pure (some v, rest)
    | _ => pure (none, s)
  let (_, rest) ← readEnd s
  return (name.map (⟨·, value⟩), rest)

/-- Whatever is no assignment ends with its line. -/
def assignmentsFrom (s : Text) : List Assignment :=
  let found := match s.dropWhile isBlank with
    | [] => (none, [])
    | s => match readAssignment s with
      | .ok found => found
      | .error s => (none, (s.dropWhile (· ≠ '\n')).drop 1)
  if found.2.length < s.length then found.1.toList ++ assignmentsFrom found.2
  else found.1.toList
termination_by s.length
decreasing_by assumption

/-- A reference after its opening brace: the name, the text that stands in for a missing
value, and how many characters make up the reference. -/
def reference? (s : Text) : Option (Text × Text × Nat) :=
  let name := s.takeWhile fun c => c ≠ '\x7d' ∧ c ≠ ':'
  match s.drop name.length with
  | '\x7d' :: _ => some (name, [], name.length + 1)
  | ':' :: '-' :: r => match cut '\x7d' r with
    | (standIn, some _) => some (name, standIn, name.length + standIn.length + 3)
    | _ => none
  | _ => none

def expanded (value? : Text → Option Text) : Text → Text
  | [] => []
  | '$' :: '\x7b' :: s => match reference? s with
    | some (name, standIn, n) => (value? name).getD standIn ++ expanded value? (s.drop n)
    | none => '$' :: expanded value? ('\x7b' :: s)
  | c :: s => c :: expanded value? s
termination_by s => s.length
decreasing_by all_goals simp only [List.length_cons, List.length_drop]; omega

/-- Values given before come first, and then those of the environment. -/
def give (environment : Assoc Text Text) (given : Assoc Text (Option Text)) (a : Assignment) :
    Assoc Text (Option Text) :=
  let value? (name : Text) : Option Text := match given.lookup name with
    | some value => some (value.getD [])
    | none => environment.lookup name
  Assoc.put a.name (a.value.map (expanded value?)) given

/-- The values that a file gives to names. -/
def values (environment : Assoc Text Text) (file : Text) : Assoc Text (Option Text) :=
  (assignmentsFrom file).foldl (give environment) []

end Rewards.EnvFile
