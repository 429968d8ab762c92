import Rewards.Document.Yaml.Cursor

/-!
The text of scalars. A line end inside a scalar is folded into a space, further line ends are kept;
a literal block keeps all of them. Reading gives no answer where the text is not well formed.
-/

namespace Rewards.Yaml

/-- A line end and those after it: a single one is a space. -/
def folded (first : Text) (more : Text) : Text :=
  if first ≠ ['\n'] then first ++ more
  else if more.isEmpty then [' '] else more

/-- What the spaces after a part of a plain scalar come to. Past the end of a line, `newLine` is
set; before a document marker there is no text. -/
structure PlainGap where
  text : Option Text
  newLine : Bool
  after : Cursor

/-- Line ends and spaces, up to other text or a document marker. -/
def plainBreaks : (fuel : Nat) → Cursor → Option Text × Cursor
  | 0, c => (some [], c)
  | n + 1, c =>
    if c.isAt ' ' then plainBreaks n c.next
    else if c.atBreak then
      let (b, c) := c.lineBreak
      if c.atDocumentMarker then (none, c)
      else
        let (bs, c) := plainBreaks n c
        (bs.map (b ++ ·), c)
    else (some [], c)

def plainGap (c : Cursor) : PlainGap :=
  let (spaces, c) := c.run (· = ' ')
  if c.atBreak then
    let (b, c) := c.lineBreak
    if c.atDocumentMarker then ⟨none, true, c⟩
    else
      let (bs, c) := plainBreaks (c.rest.length + 1) c
      ⟨bs.map (folded b), true, c⟩
  else ⟨some spaces, false, c⟩

/-- Whether a plain scalar ends before the first of the characters. -/
def endsPlain (inFlow : Bool) : Text → Bool
  | [] => true
  | ch :: rest =>
    isSpaceOrEnd (some ch) ||
    (ch = ':' && (isSpaceOrEnd rest.head? ||
      (inFlow && rest.head?.any fun d => ",[]\x7b\x7d".toList.contains d))) ||
    (inFlow && ",?[]\x7b\x7d".toList.contains ch)

/-- The part of a plain scalar that stands on one line without spaces. -/
def plainWord (inFlow : Bool) : Text → Text
  | [] => []
  | ch :: rest => if endsPlain inFlow (ch :: rest) then [] else ch :: plainWord inFlow rest

/-- A plain scalar from the place on, where its lines are indented by at least `indent`. The answer
tells whether the scalar was followed by the end of a line. -/
def plain (inFlow : Bool) (indent : Int) : (fuel : Nat) → (gap : Text) → Cursor →
    Text × Bool × Cursor
  | 0, _, c => ([], false, c)
  | n + 1, gap, c =>
    if c.isAt '#' then ([], false, c) else
    match plainWord inFlow c.rest with
    | [] => ([], false, c)
    | word =>
      let g := plainGap (c.skip word.length)
      match g.text with
      | none | some [] => (gap ++ word, g.newLine, g.after)
      | some next =>
        if g.after.isAt '#' ∨ (¬ inFlow ∧ (g.after.column : Int) < indent) then
          (gap ++ word, g.newLine, g.after)
        else
          match plain inFlow indent n next g.after with
          | ([], _) => (gap ++ word, g.newLine, g.after)
          | (more, newLine, after) => (gap ++ word ++ more, newLine, after)

/-- Escapes of a single character between double quotes. -/
def escapes : List (Char × Char) := [
  ('0', '\x00'), ('a', '\x07'), ('b', '\x08'), ('t', '\t'), ('\t', '\t'), ('n', '\n'),
  ('v', '\x0b'), ('f', '\x0c'), ('r', '\r'), ('e', '\x1b'), (' ', ' '), ('"', '"'),
  ('\\', '\\'), ('/', '/'), ('N', '\x85'), ('_', '\xa0'), ('L', '\u2028'), ('P', '\u2029')]

/-- How many hexadecimal digits an escape takes. -/
def escapeWidths : List (Char × Nat) := [('x', 2), ('u', 4), ('U', 8)]

def hexChar? (s : Text) (width : Nat) : Option Char :=
  if s.length < width then none else (Text.hexNumber? (s.take width)).map Char.ofNat

/-- Line ends with the gaps around them inside quotes, where no document marker may stand. -/
def quotedBreaks : (fuel : Nat) → Cursor → Option (Text × Cursor)
  | 0, _ => none
  | n + 1, c =>
    if c.atDocumentMarker then none else
    let (_, c) := c.run isGap
    if c.atBreak then do
      let (b, c) := c.lineBreak
      let (bs, c) ← quotedBreaks n c
      return (b ++ bs, c)
    else some ([], c)

/-- The rest of a quoted scalar, up to and with its closing quote. -/
def quoted (quote : Char) : (fuel : Nat) → Cursor → Option (Text × Cursor)
  | 0, _ => none
  | n + 1, c =>
    match c.rest with
    | [] => none
    | ch :: rest =>
      if isGap ch ∨ isBreak ch then do
        let (gap, c) := c.run isGap
        if c.rest.isEmpty then none
        else if c.atBreak then
          let (b, c) := c.lineBreak
          let (bs, c) ← quotedBreaks (c.rest.length + 1) c
          let (s, c) ← quoted quote n c
          return (folded b bs ++ s, c)
        else
          let (s, c) ← quoted quote n c
          return (gap ++ s, c)
      else if ch = quote then
        if quote = '\'' ∧ rest.head? = some '\'' then do
          let (s, c) ← quoted quote n (c.skip 2)
          return ('\'' :: s, c)
        else some ([], c.next)
      else if quote = '"' ∧ ch = '\\' then
        match rest with
        | [] => none
        | e :: more =>
          match escapes.lookup e, escapeWidths.lookup e with
          | some x, _ => do
            let (s, c) ← quoted quote n (c.skip 2)
            return (x :: s, c)
          | none, some width => do
            let x ← hexChar? more width
            let (s, c) ← quoted quote n (c.skip (width + 2))
            return (x :: s, c)
          | none, none =>
            if isBreak e then do
              let (_, c) := c.next.lineBreak
              let (bs, c) ← quotedBreaks (c.rest.length + 1) c
              let (s, c) ← quoted quote n c
              return (bs ++ s, c)
            else none
      else do
        let (s, c) ← quoted quote n c.next
        return (ch :: s, c)

/-- What becomes of the line ends at the end of a block: all go but one, all go, or all stay. -/
inductive Chomp where
  | clip | strip | keep
  deriving DecidableEq

/-- The marks after the sign of a block: chomping, and how deep the block is indented. -/
def blockMarks (c : Cursor) : Option (Chomp × Option Nat × Cursor) := do
  let chomp (c : Cursor) : Option (Chomp × Cursor) :=
    if c.isAt '+' then some (.keep, c.next) else if c.isAt '-' then some (.strip, c.next) else none
  let depth (c : Cursor) : Option (Option Nat × Cursor) := match c.rest with
    | d :: _ =>
      if d = '0' then none
      else if d.isDigit then some (some (d.toNat - 48), c.next)
      else some (none, c)
    | [] => some (none, c)
  let (ch, d, c) ← match chomp c with
    | some (ch, c) => do
      let (d, c) ← depth c
      pure (ch, d, c)
    | none => do
      let (d, c) ← depth c
      match d, chomp c with
      | some d, some (ch, c) => pure (ch, some d, c)
      | d, _ => pure (Chomp.clip, d, c)
  if c.rest.isEmpty || c.isAt ' ' || c.atBreak then some (ch, d, c) else none

/-- The rest of the line with the marks: spaces and a comment. -/
def blockFirstLine (c : Cursor) : Option Cursor :=
  let (_, c) := c.run (· = ' ')
  let (_, c) := if c.isAt '#' then c.run (!isBreak ·) else ([], c)
  if c.rest.isEmpty || c.atBreak then some c.lineBreak.2 else none

/-- Empty lines, and the widest indentation among them and the first line of text. -/
def blockIndentation : (fuel : Nat) → (widest : Nat) → Cursor → Text × Nat × Cursor
  | 0, w, c => ([], w, c)
  | n + 1, w, c =>
    if c.isAt ' ' then blockIndentation n (max w c.next.column) c.next
    else if c.atBreak then
      let (b, c) := c.lineBreak
      let (bs, w, c) := blockIndentation n w c
      (b ++ bs, w, c)
    else ([], w, c)

/-- Empty lines, and the indentation of the line after them. -/
def blockBreaks (indent : Nat) : (fuel : Nat) → Cursor → Text × Cursor
  | 0, c => ([], c)
  | n + 1, c =>
    if c.column < indent ∧ c.isAt ' ' then blockBreaks indent n c.next
    else if c.atBreak then
      let (b, c) := c.lineBreak
      let (bs, c) := blockBreaks indent n c
      (b ++ bs, c)
    else ([], c)

/-- The lines of a block after the empty lines `before`, with the line ends at its end. -/
def blockLines (fold : Bool) (indent : Nat) : (fuel : Nat) → (before : Text) → Cursor →
    Text × (Text × Text) × Cursor
  | 0, before, c => ([], ([], before), c)
  | n + 1, before, c =>
    if c.column = indent ∧ ¬ c.rest.isEmpty then
      let flush := ¬ c.rest.head?.any isGap
      let (line, c) := c.run (!isBreak ·)
      let (b, c) := c.lineBreak
      let (bs, c) := blockBreaks indent (c.rest.length + 1) c
      if c.column = indent ∧ ¬ c.rest.isEmpty then
        -- Lines are joined only where neither of them is indented further.
        let between :=
          if fold ∧ b = ['\n'] ∧ flush ∧ ¬ c.rest.head?.any isGap then
            if bs.isEmpty then [' '] else []
          else b
        let (more, tail, c) := blockLines fold indent n bs c
        (before ++ line ++ between ++ more, tail, c)
      else (before ++ line, (b, bs), c)
    else ([], ([], before), c)

/-- A block scalar from its sign on, inside a block that is indented by `outer`. -/
def block (outer : Int) (c : Cursor) : Option (Text × Cursor) := do
  let fold := c.isAt '>'
  let (chomp, depth, c) ← blockMarks c.next
  let c ← blockFirstLine c
  let least := (max 1 (outer + 1)).toNat
  let (indent, before, c) := match depth with
    | some d =>
      let (bs, c) := blockBreaks (least + d - 1) (c.rest.length + 1) c
      (least + d - 1, bs, c)
    | none =>
      let (bs, w, c) := blockIndentation (c.rest.length + 1) 0 c
      (max least w, bs, c)
  let (s, (b, bs), c) := blockLines fold indent (c.rest.length + 1) before c
  return match chomp with
    | .strip => (s, c)
    | .clip => (s ++ b, c)
    | .keep => (s ++ b ++ bs, c)

end Rewards.Yaml
