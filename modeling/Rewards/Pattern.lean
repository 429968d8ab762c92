import Rewards.Label

/-!
The patterns by which kinds know their tokens, written as regular expressions. A `Pattern` has what
these need: literal characters, `[^c]+`, groups, branches and optional items. It is read from its
text, and matched with the first choice first.
-/

namespace Rewards

/-- What is read at once in a regular expression. -/
inductive Lexeme where
  | char (c : Char)
  | others (c : Char)
  | bracket
  | capture
  | close
  | bar
  | maybe
  deriving DecidableEq, Repr

namespace Lexeme

/-- Characters that stand for themselves behind a backslash only. -/
def metacharacters : Text := ".^$*+?\x7b\x7d[]\\|()".toList

/-- The lexemes of a text, if it has no others than these. -/
def ofText? : Text → Option (List Lexeme)
  | [] => some []
  | '\\' :: c :: s => if c.isAlphanum then none else (ofText? s).map (char c :: ·)
  | '(' :: '?' :: ':' :: s => (ofText? s).map (bracket :: ·)
  | '(' :: s => (ofText? s).map (capture :: ·)
  | ')' :: s => (ofText? s).map (close :: ·)
  | '|' :: s => (ofText? s).map (bar :: ·)
  | '?' :: s => (ofText? s).map (maybe :: ·)
  | '[' :: '^' :: c :: ']' :: '+' :: s =>
    if "[]\\".toList.contains c then none else (ofText? s).map (others c :: ·)
  | c :: s => if metacharacters.contains c then none else (ofText? s).map (char c :: ·)

end Lexeme

inductive Pattern where
  | empty
  | char (c : Char)
  /-- One or more characters, none of them `c`. -/
  | others (c : Char)
  | chain (p q : Pattern)
  | either (p q : Pattern)
  | optional (p : Pattern)
  | group (number : Nat) (p : Pattern)
  deriving DecidableEq, Repr

namespace Pattern

/-- A group that is being read: its number, if it captures, and its branches before the last `|` and
items after it, last first. -/
structure Frame where
  number : Option Nat
  branches : List Pattern
  items : List Pattern

namespace Frame

def opened (number : Option Nat) : Frame := ⟨number, [], []⟩

def push (f : Frame) (p : Pattern) : Frame := { f with items := p :: f.items }

/-- The items after the last `|`, one after another. -/
def branch (f : Frame) : Pattern := f.items.foldl (fun q p => chain p q) empty

def body (f : Frame) : Pattern := f.branches.foldl (fun q p => either p q) f.branch

def pattern (f : Frame) : Pattern :=
  match f.number with
  | some n => group n f.body
  | none => f.body

/-- The last item made optional. There has to be one that is not repeated yet. -/
def maybe? (f : Frame) : Option Frame :=
  match f.items with
  | [] | optional _ :: _ | others _ :: _ => none
  | p :: ps => some { f with items := optional p :: ps }

end Frame

/-- The pattern of the lexemes that follow in a group `f` in the groups `outer`, innermost first.
`count` groups that capture have been opened. -/
def readIn (count : Nat) (f : Frame) (outer : List Frame) : List Lexeme → Option Pattern
  | [] => if outer.isEmpty then some f.pattern else none
  | .char c :: ls => readIn count (f.push (char c)) outer ls
  | .others c :: ls => readIn count (f.push (others c)) outer ls
  | .bracket :: ls => readIn count (.opened none) (f :: outer) ls
  | .capture :: ls => readIn (count + 1) (.opened (some (count + 1))) (f :: outer) ls
  | .close :: ls =>
    match outer with
    | [] => none
    | g :: outer => readIn count (g.push f.pattern) outer ls
  | .bar :: ls => readIn count ⟨f.number, f.branch :: f.branches, []⟩ outer ls
  | .maybe :: ls => f.maybe?.bind fun f => readIn count f outer ls

def ofText? (s : Text) : Option Pattern := (Lexeme.ofText? s).bind (readIn 0 (.opened none) [])

/-- The captured texts with their groups, last first, and what is left of the text. -/
abbrev Match := List (Nat × Text) × Text

/-- What is left behind one or more characters other than `c`, the longest stretch first. -/
def pastOthers (c : Char) : Text → List Text
  | [] => []
  | d :: s => if d = c then [] else pastOthers c s ++ [s]

/-- All ways to match a front part of a text, first choice first. -/
def ways : Pattern → Text → List Match
  | empty, s => [([], s)]
  | char _, [] => []
  | char c, d :: s => if c = d then [([], s)] else []
  | others c, s => (pastOthers c s).map fun r => ([], r)
  | chain p q, s => (ways p s).flatMap fun m => (ways q m.2).map fun n => (n.1 ++ m.1, n.2)
  | either p q, s => ways p s ++ ways q s
  | optional p, s => ways p s ++ [([], s)]
  | group n p, s => (ways p s).map fun m => ((n, s.take (s.length - m.2.length)) :: m.1, m.2)

/-- What the groups capture in the first way to match the whole text. -/
def captures? (p : Pattern) (s : Text) : Option (List (Nat × Text)) :=
  ((p.ways s).find? fun m => m.2.isEmpty).map (·.1)

/-- The second group of a text that matches; any other text is left as it is. -/
def strip (p : Pattern) (s : Text) : Text :=
  match p.captures? s with
  | some captured => (captured.lookup 2).getD []
  | none => s

/-- A text that has to be found as it is. -/
def escaped (s : Text) : Text :=
  s.flatMap fun c => if Keyword.patternSpecial.contains c then ['\\', c] else [c]

end Pattern

namespace Label

/-- Group 1 is the symbol, or the keyword with its colon; group 2 is the body. -/
def patternText (l : Label) : Text :=
  '(' :: (l.symbol.elim [] fun s => Pattern.escaped s ++ ['|']) ++
    Keyword.pattern (l.keyword.getD []) ++ ":)([^,]+)".toList

/-- The pattern of the tokens that the label claims, if it has no flaw. -/
def compiled (l : Label) : Except KindFlaw (Option Pattern) :=
  match l.flaw? with
  | some f => .error f
  | none => .ok (Pattern.ofText? l.patternText)

end Label

end Rewards
