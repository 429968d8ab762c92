import Rewards.Document.Yaml.Scalar

/-!
Lexemes of a YAML text. Indentation becomes lexemes of its own: a deeper line opens a block, and a
line that is not as deep closes blocks. Text before a colon turns out to be a key only at the
colon, so the place of a possible key is kept until then.
-/

namespace Rewards.Yaml

inductive Lexeme where
  | directive | documentStart | documentEnd | streamEnd
  | blockSequence | blockMapping | blockEnd
  | flowSequence | flowSequenceEnd | flowMapping | flowMappingEnd
  | entry | comma | key | value
  | aliasOf (name : Text)
  | anchor (name : Text)
  | tag (name : Text)
  | scalar (isPlain : Bool) (text : Text)
  deriving DecidableEq, Repr

/-- Where a key may have started; a required one has to be followed by a colon on its line. -/
structure KeyPlace where
  number : Nat
  required : Bool
  index : Nat
  line : Nat
  column : Nat

/-- `keys` has a place for every open flow collection and one for the block around them, the
innermost first. -/
structure Layout where
  cursor : Cursor
  indent : Int
  outer : List Int
  keyAllowed : Bool
  keys : List (Option KeyPlace)
  out : Array Lexeme

namespace Layout

def start (s : Text) : Layout := ⟨.start s, -1, [], true, [none], #[]⟩

def inFlow (l : Layout) : Bool := 1 < l.keys.length

def column (l : Layout) : Int := l.cursor.column

def emit (l : Layout) (x : Lexeme) : Layout := { l with out := l.out.push x }

def skip (l : Layout) (n : Nat) : Layout := { l with cursor := l.cursor.skip n }

def allowKey (l : Layout) (b : Bool) : Layout := { l with keyAllowed := b }

/-- Spaces, comments and line ends. Outside flow collections a new line may start with a key. -/
def blanks (inFlow : Bool) : (fuel : Nat) → Cursor → (keyAllowed : Bool) → Cursor × Bool
  | 0, c, k => (c, k)
  | n + 1, c, k =>
    let (_, c) := c.run (· = ' ')
    let (_, c) := if c.isAt '#' then c.run (!isBreak ·) else ([], c)
    if c.atBreak then blanks inFlow n c.lineBreak.2 (k || !inFlow) else (c, k)

def skipBlanks (l : Layout) : Layout :=
  let c := if l.cursor.index = 0 ∧ l.cursor.isAt '\ufeff' then l.cursor.next else l.cursor
  let (c, k) := blanks l.inFlow (c.rest.length + 1) c l.keyAllowed
  { l with cursor := c, keyAllowed := k }

/-- A key has to end on its line, after not too many characters. -/
def isStale (c : Cursor) (k : KeyPlace) : Bool := k.line ≠ c.line || 1024 < c.index - k.index

def dropStale (l : Layout) : Option Layout :=
  let stale (k : Option KeyPlace) : Bool := k.any (isStale l.cursor)
  if l.keys.any fun k => stale k && k.any (·.required) then none
  else some { l with keys := l.keys.map fun k => if stale k then none else k }

/-- No key any more for the innermost collection. -/
def forgetKey (l : Layout) : Option Layout :=
  match l.keys with
  | some k :: ks => if k.required then none else some { l with keys := none :: ks }
  | _ => some l

/-- The next lexeme may be the first of a key. -/
def markKey (l : Layout) : Option Layout :=
  if l.keyAllowed then do
    let l ← l.forgetKey
    let c := l.cursor
    let required := !l.inFlow && l.indent = l.column
    return { l with keys := some ⟨l.out.size, required, c.index, c.line, c.column⟩ :: l.keys.tail }
  else some l

/-- Closes the blocks that are deeper than a column. -/
def closeTo (column : Int) (indent : Int) (outer : List Int) (out : Array Lexeme) :
    Int × List Int × Array Lexeme :=
  if indent ≤ column then (indent, outer, out)
  else match outer with
    | [] => (indent, outer, out)
    | i :: outer => closeTo column i outer (out.push .blockEnd)

def unwind (l : Layout) (column : Int) : Layout :=
  if l.inFlow then l
  else
    let (indent, outer, out) := closeTo column l.indent l.outer l.out
    { l with indent, outer, out }

/-- Opens a block at a column that is deeper than the block around it, before lexeme `number`. -/
def openBlock (l : Layout) (column : Int) (x : Lexeme) (number : Nat) : Layout :=
  if !l.inFlow && l.indent < column then
    { l with indent := column, outer := l.indent :: l.outer,
             out := l.out.insertIdxIfInBounds number x }
  else l

/-- A line of its own that starts or ends a document. -/
def documentMarker (l : Layout) (x : Lexeme) : Option Layout := do
  let l ← (l.unwind (-1)).forgetKey
  return ((l.allowKey false).skip 3).emit x

def directive (l : Layout) : Option Layout := do
  let l ← (l.unwind (-1)).forgetKey
  let (_, c) := l.cursor.run (!isBreak ·)
  return ({ l with cursor := c }.allowKey false).emit .directive

def flowOpen (l : Layout) (x : Lexeme) : Option Layout := do
  let l ← l.markKey
  return (({ l with keys := none :: l.keys }.allowKey true).skip 1).emit x

def flowClose (l : Layout) (x : Lexeme) : Option Layout := do
  if !l.inFlow then none
  let l ← l.forgetKey
  return (({ l with keys := l.keys.tail }.allowKey false).skip 1).emit x

def comma (l : Layout) : Option Layout := do
  let l ← (l.allowKey true).forgetKey
  return (l.skip 1).emit .comma

def entry (l : Layout) : Option Layout := do
  if !l.inFlow && !l.keyAllowed then none
  let l ← ((l.openBlock l.column .blockSequence l.out.size).allowKey true).forgetKey
  return (l.skip 1).emit .entry

def key (l : Layout) : Option Layout := do
  if !l.inFlow && !l.keyAllowed then none
  let l ← ((l.openBlock l.column .blockMapping l.out.size).allowKey (!l.inFlow)).forgetKey
  return (l.skip 1).emit .key

/-- A colon makes a key of what started at the place that was kept; without one the key is
empty. -/
def value (l : Layout) : Option Layout := do
  match l.keys with
  | some k :: ks =>
    -- The key comes first, and a block that it opens before the key.
    let l := { l with keys := none :: ks, out := l.out.insertIdxIfInBounds k.number .key }
    let l := l.openBlock k.column .blockMapping k.number
    return ((l.allowKey false).skip 1).emit .value
  | _ =>
    if !l.inFlow && !l.keyAllowed then none
    let l ← ((l.openBlock l.column .blockMapping l.out.size).allowKey (!l.inFlow)).forgetKey
    return (l.skip 1).emit .value

def isNameChar (c : Char) : Bool := c.isAlphanum || c = '-' || c = '_'

/-- The name after `&` or `*`. -/
def name (l : Layout) (x : Text → Lexeme) : Option Layout := do
  let l ← l.markKey
  let (n, c) := l.cursor.next.run isNameChar
  if n.isEmpty then none
  let ends (d : Char) : Bool := "?:,]\x7d%@\x60".toList.contains d
  if !(isSpaceOrEnd c.rest.head? || c.rest.head?.any ends) then none
  return ({ l with cursor := c }.allowKey false).emit (x n)

def isTagChar (c : Char) : Bool :=
  c.isAlphanum || "!-;/?:@&=+$,_.~*'()[]%<>".toList.contains c

def tag (l : Layout) : Option Layout := do
  let l ← l.markKey
  let (t, c) := l.cursor.run isTagChar
  if !(c.rest.isEmpty || c.isAt ' ' || c.atBreak) then none
  return ({ l with cursor := c }.allowKey false).emit (.tag t)

def blockScalar (l : Layout) : Option Layout := do
  let l ← (l.allowKey true).forgetKey
  let (s, c) ← block l.indent l.cursor
  return { l with cursor := c }.emit (.scalar false s)

def quotedScalar (l : Layout) (quote : Char) : Option Layout := do
  let l ← l.markKey
  let c := l.cursor.next
  let (s, c) ← quoted quote (c.rest.length + 1) c
  return ({ l with cursor := c }.allowKey false).emit (.scalar false s)

def plainScalar (l : Layout) : Option Layout := do
  let l ← l.markKey
  let (s, newLine, c) := plain l.inFlow (l.indent + 1) (l.cursor.rest.length + 1) [] l.cursor
  if s.isEmpty then none
  return ({ l with cursor := c }.allowKey newLine).emit (.scalar true s)

/-- Characters that start no plain scalar. -/
def indicators : Text := "-?:,[]\x7b\x7d#&*!|>'\"%@\x60".toList

def startsPlain (inFlow : Bool) (ch : Char) (after : Option Char) : Bool :=
  !(isGap ch || isBreak ch || indicators.contains ch) ||
    (!isSpaceOrEnd after && (ch = '-' || (!inFlow && (ch = '?' || ch = ':'))))

/-- One lexeme from a character on that is not blank. -/
def lexeme (l : Layout) (ch : Char) : Option Layout :=
  let after := l.cursor.peek 1
  let first := l.cursor.column = 0
  let gap := isSpaceOrEnd after
  if ch = '%' ∧ first then l.directive
  else if first ∧ l.cursor.atMarker '-' then l.documentMarker .documentStart
  else if first ∧ l.cursor.atMarker '.' then l.documentMarker .documentEnd
  else if ch = '[' then l.flowOpen .flowSequence
  else if ch = '\x7b' then l.flowOpen .flowMapping
  else if ch = ']' then l.flowClose .flowSequenceEnd
  else if ch = '\x7d' then l.flowClose .flowMappingEnd
  else if ch = ',' then l.comma
  else if ch = '-' ∧ gap then l.entry
  else if ch = '?' ∧ (l.inFlow ∨ gap) then l.key
  else if ch = ':' ∧ (l.inFlow ∨ gap) then l.value
  else if ch = '*' then l.name .aliasOf
  else if ch = '&' then l.name .anchor
  else if ch = '!' then l.tag
  else if (ch = '|' ∨ ch = '>') ∧ ¬ l.inFlow then l.blockScalar
  else if ch = '\'' ∨ ch = '"' then l.quotedScalar ch
  else if startsPlain l.inFlow ch after then l.plainScalar
  else none

def finish (l : Layout) : Option (List Lexeme) := do
  let l ← (l.unwind (-1)).forgetKey
  return (l.emit .streamEnd).out.toList

def scan : (fuel : Nat) → Layout → Option (List Lexeme)
  | 0, _ => none
  | n + 1, l => do
    let l ← l.skipBlanks.dropStale
    let l := l.unwind l.column
    match l.cursor.rest with
    | [] => l.finish
    | ch :: _ => scan n (← l.lexeme ch)

end Layout

/-- The lexemes of a text, if it has any order. -/
def lexemes? (s : Text) : Option (List Lexeme) :=
  if s.any isForbidden then none else Layout.scan (s.length + 2) (.start s)

end Rewards.Yaml
