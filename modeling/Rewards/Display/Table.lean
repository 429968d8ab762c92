import Rewards.Display.Line
import Rewards.Display.Markup

/-!
Tables with a title, a heading over each column and a rounded frame. A column is as wide as its
widest cell; where that is too much for a line of output, the widest columns give way.
-/

namespace Rewards.Display

open Text

structure Column where
  heading : Text
  align : Align
  wraps : Bool
  deriving DecidableEq, Repr

/-- Title and cells are markup. -/
structure Table where
  title : Text
  columns : List Column
  rows : List (List Text)
  deriving Repr

namespace Table

-- Sums start at the numeral, also where the zero of a semiring is known.
attribute [local instance (high)] Zero.ofOfNat0

def isLineEnd (c : Char) : Bool :=
  c == '\n' || ('\x1c' ≤ c && c ≤ '\x1e') || c == '\x85' || c == '\u2028' || c == '\u2029'

/-- The width of the widest line of a text. -/
def widestLine (s : Text) : Nat :=
  ((pieces '\n' ((printable s).map fun c => if isLineEnd c then '\n' else c)).map width).foldl max 0

/-- One space on each side of a cell. -/
def padding : Nat := 2

/-- `part * total / whole`, where a half goes to the even neighbour. -/
def share (part total whole : Nat) : Nat :=
  let q := part * total / whole
  let rest := 2 * (part * total % whole)
  if rest < whole ∨ (rest = whole ∧ q % 2 = 0) then q else q + 1

/-- Takes a total away from widths in equal shares, and no more from each than is allowed; of a
width that allows nothing, nothing is taken. -/
def reduce (total : Nat) (takers : Nat) : List (Nat × Nat) → List Nat
  | [] => []
  | (w, allowed) :: ws =>
    if allowed = 0 then w :: reduce total takers ws
    else
      let taken := min allowed (share 1 total takers)
      (w - taken) :: reduce (total - taken) (takers - 1) ws

def reduced (total : Nat) (ws : List (Nat × Nat)) : List Nat :=
  reduce total (ws.filter fun w => w.2 ≠ 0).length ws

/-- The widest of the columns that may shrink come down to the next widest, until all fit. Fuel is
the number of times that they do. -/
def collapse (limit : Nat) : (fuel : Nat) → List (Nat × Bool) → List (Nat × Bool)
  | 0, ws => ws
  | n + 1, ws =>
    let excess := (ws.map (·.1)).sum - limit
    let widest := ((ws.filter (·.2)).map (·.1)).foldl max 0
    let next := ((ws.filter fun w => w.2 && w.1 != widest).map (·.1)).foldl max 0
    if excess = 0 ∨ widest = 0 then ws
    else
      let step := min excess (widest - next)
      let allowed := ws.map fun w => (w.1, if w.2 && w.1 == widest then step else 0)
      collapse limit n ((reduced excess allowed).zip (ws.map (·.2)))

/-- Widths that fit into a line; if columns that may shrink are not enough, all do. -/
def fitted (limit : Nat) (ws : List (Nat × Bool)) : List Nat :=
  let total (ws : List Nat) : Nat := ws.sum
  if total (ws.map (·.1)) ≤ limit then ws.map (·.1)
  else
    let ws := (collapse limit (total (ws.map (·.1))) ws).map (·.1)
    if total ws ≤ limit then ws else reduced (total ws - limit) (ws.map fun w => (w, w))

/-- What the frame takes of a line. -/
def frameWidth (columns : Nat) : Nat := columns + 1

/-- The cells of a column, its heading first. -/
def cellsOf (t : Table) (i : Nat) (c : Column) : List Text :=
  c.heading :: t.rows.filterMap (·[i]?)

/-- The widths of the columns, with the spaces around the cells. -/
def columnWidths (t : Table) : List Nat :=
  let limit := pageWidth - frameWidth t.columns.length
  fitted limit <| t.columns.zipIdx.map fun (c, i) =>
    (min limit (((t.cellsOf i c).map widestLine).foldl max 0 + padding), c.wraps)

def cellLines (c : Column) (w : Nat) (cell : Text) : List Text :=
  lines c.align (w - padding) .ellipsis c.wraps cell

def rule (left middle right : Char) (widths : List Nat) : Text :=
  left :: joined [middle] (widths.map fun w => List.replicate w '─') ++ [right, '\n']

/-- A row is as high as its highest cell; cells stand at its top. -/
def row (columns : List Column) (widths : List Nat) (cells : List Text) : Text :=
  let blocks := (columns.zip (widths.zip cells)).map fun (c, w, cell) => (w, cellLines c w cell)
  let height := (blocks.map (·.2.length)).foldl max 1
  (List.range height).flatMap fun i =>
    '│' :: joined ['│'] (blocks.map fun (w, ls) => match ls[i]? with
      | some l => ' ' :: l ++ [' ']
      | none => blanks w) ++ ['│', '\n']

/-- The table in plain text; the title is centered over it. -/
def draw (t : Table) : Text :=
  let widths := t.columnWidths
  let title := lines .center (widths.sum + frameWidth t.columns.length) .fold true t.title
  (title.flatMap fun line => line ++ ['\n'])
    ++ rule '╭' '┬' '╮' widths
    ++ row t.columns widths (t.columns.map (·.heading))
    ++ rule '├' '┼' '┤' widths
    ++ t.rows.flatMap (row t.columns widths)
    ++ rule '╰' '┴' '╯' widths

/-- The text of a table given in markup, unless some of that has no meaning. -/
def render? (t : Table) : Option Text := do
  let rows ← t.rows.mapM fun cells => cells.mapM Markup.render?
  let title ← Markup.render? t.title
  return draw { t with title := title, rows := rows }

end Table

end Rewards.Display
