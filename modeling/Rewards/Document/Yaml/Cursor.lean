import Rewards.Text.Digit

/-! A place in a YAML text with what is left of the text from there on. -/

namespace Rewards.Yaml

def isBreak (c : Char) : Bool :=
  c = '\n' || c = '\r' || c = '\x85' || c = '\u2028' || c = '\u2029'

def isGap (c : Char) : Bool := c = ' ' || c = '\t'

/-- The end of the text counts as white space. -/
def isSpaceOrEnd : Option Char → Bool
  | none => true
  | some c => isGap c || isBreak c

/-- Characters that may not stand in a text at all. -/
def isForbidden (c : Char) : Bool :=
  let n := c.toNat
  !(n = 0x9 || n = 0xa || n = 0xd || (0x20 ≤ n && n ≤ 0x7e) || n = 0x85 ||
    (0xa0 ≤ n && n ≤ 0xd7ff) || (0xe000 ≤ n && n ≤ 0xfffd) || 0x10000 ≤ n)

/-- Lines and columns count from 0. -/
structure Cursor where
  rest : Text
  index : Nat
  line : Nat
  column : Nat

namespace Cursor

def start (s : Text) : Cursor := ⟨s, 0, 0, 0⟩

def peek (c : Cursor) (n : Nat) : Option Char := c.rest[n]?

def isAt (c : Cursor) (ch : Char) : Bool := c.rest.head? = some ch

def atBreak (c : Cursor) : Bool := c.rest.head?.any isBreak

/-- Past one character. A byte order mark takes no column. -/
def next (c : Cursor) : Cursor :=
  match c.rest with
  | [] => c
  | ch :: rest =>
    if isBreak ch ∧ ¬ (ch = '\r' ∧ rest.head? = some '\n') then ⟨rest, c.index + 1, c.line + 1, 0⟩
    else if ch = '\ufeff' then ⟨rest, c.index + 1, c.line, c.column⟩
    else ⟨rest, c.index + 1, c.line, c.column + 1⟩

def skip (c : Cursor) : Nat → Cursor
  | 0 => c
  | n + 1 => skip c.next n

/-- The longest run of characters in `p`, and the place after it. -/
def run (c : Cursor) (p : Char → Bool) : Text × Cursor :=
  let s := c.rest.takeWhile p
  (s, c.skip s.length)

/-- The line end at the place, in the form that a scalar keeps. -/
def lineBreak (c : Cursor) : Text × Cursor :=
  match c.rest with
  | '\r' :: '\n' :: _ => (['\n'], c.skip 2)
  | ch :: _ =>
    if ch = '\u2028' ∨ ch = '\u2029' then ([ch], c.next)
    else if isBreak ch then (['\n'], c.next)
    else ([], c)
  | [] => ([], c)

/-- Three equal characters that stand alone in the first columns of a line. -/
def atMarker (c : Cursor) (ch : Char) : Bool :=
  c.rest.take 3 = [ch, ch, ch] && isSpaceOrEnd (c.peek 3)

/-- A line that starts or ends a document. -/
def atDocumentMarker (c : Cursor) : Bool := c.atMarker '-' || c.atMarker '.'

end Cursor

end Rewards.Yaml
