import Rewards.Display.Emoji

/-!
Markup: words in brackets open styles, a slash before them closes one. Styles do not show in plain
text, but they must match: what closes a style needs one that is open.
-/

namespace Rewards.Display.Markup

open Text

def isTagStart (c : Char) : Bool := ('a' ≤ c && c ≤ 'z') || c == '#' || c == '/' || c == '@'

/-- What stands between an opening bracket and the next closing one, if it is a tag. -/
def tag? (s : Text) : Option Text :=
  let inner := s.takeWhile fun c => c ≠ '[' ∧ c ≠ ']'
  if inner.head?.any isTagStart ∧ (s.drop inner.length).head? = some ']' then some inner else none

def slashes (n : Nat) : Text := List.replicate n '\\'

/-- Markup that shows the text after a run of backslashes. Before a tag every backslash is doubled,
and one more takes the tag for text. -/
def escapedAfter (run : Nat) : Text → Text
  | [] => slashes run
  | c :: s =>
    if c = '\\' then escapedAfter (run + 1) s
    else if c = '[' then
      match tag? s with
      | some inner =>
        slashes (2 * run + 1) ++ '[' :: inner ++ ']' :: escapedAfter 0 (s.drop (inner.length + 1))
      | none => slashes run ++ '[' :: escapedAfter 0 s
    else slashes run ++ c :: escapedAfter 0 s
termination_by s => s.length
decreasing_by all_goals simp only [List.length_cons, List.length_drop]; omega

/-- A single backslash at the end is doubled. -/
def escaped (s : Text) : Text :=
  let t := escapedAfter 0 s
  if t.reverse.head? = some '\\' ∧ t.reverse[1]? ≠ some '\\' then t ++ ['\\'] else t

inductive Piece where
  | plain (t : Text)
  | tag (inner : Text)
  deriving DecidableEq, Repr

/-- The pieces of markup after some plain text and a run of backslashes. Two backslashes before a
tag are one, and a single one takes the tag for text. -/
def piecesAfter (before : Text) (run : Nat) : Text → List Piece
  | [] => [.plain (before ++ slashes run)]
  | c :: s =>
    if c = '\\' then piecesAfter before (run + 1) s
    else if c = '[' then
      match tag? s with
      | some inner =>
        -- Of an odd number of backslashes the last one belongs to the tag.
        let found : Piece :=
          if run % 2 = 1 then .plain ('[' :: inner ++ [']']) else .tag inner
        .plain before :: .plain (slashes (run / 2)) :: found ::
          piecesAfter [] 0 (s.drop (inner.length + 1))
      | none => piecesAfter (before ++ slashes run ++ ['[']) 0 s
    else piecesAfter (before ++ slashes run ++ [c]) 0 s
termination_by s => s.length
decreasing_by all_goals simp only [List.length_cons, List.length_drop]; omega

/-- A bracket that starts no tag loses a backslash before it. -/
def unescaped : Text → Text
  | '\\' :: '[' :: s => '[' :: unescaped s
  | c :: s => c :: unescaped s
  | [] => []

/-- Text attributes with their short names. -/
def attributes : List (Text × Text) := [
  ("bold", "b"), ("dim", "d"), ("italic", "i"), ("underline", "u"), ("blink", "blink"),
  ("blink2", "blink2"), ("reverse", "r"), ("conceal", "c"), ("strike", "s"), ("underline2", "uu"),
  ("frame", "frame"), ("encircle", "encircle"), ("overline", "o")]

/-- The name under which a style is known. Attributes are named in full and in a fixed order; of any
other name only the blanks around it and the case do not matter. -/
def styleName (s : Text) : Text :=
  let ws := (words s).map lower
  let named (a : Text × Text) : Bool := ws.contains a.1 || ws.contains a.2
  if ws.all fun w => attributes.any fun a => w == a.1 || w == a.2 then
    joined [' '] ((attributes.filter named).map (·.1))
  else lower (trim s)

/-- Leaves out the style that was opened last of those with a name. -/
def close? (name : Text) : List Text → Option (List Text)
  | [] => none
  | s :: opened => if s = name then some opened else (close? name opened).map (s :: ·)

/-- The styles that are open after a tag. A lone slash closes whatever was opened last. What stands
behind an equals sign is not looked at. -/
def follow? (inner : Text) (opened : List Text) : Option (List Text) :=
  match (cut '=' inner).1 with
  | '/' :: name =>
    if (trim name).isEmpty then
      match opened with
      | _ :: opened => some opened
      | [] => none
    else close? (styleName name) opened
  | name => some (styleName name :: opened)

def renderPieces (opened : List Text) : List Piece → Option Text
  | [] => some []
  | .plain t :: ps => (renderPieces opened ps).map (Emoji.replaced (unescaped t) ++ ·)
  | .tag inner :: ps => (follow? inner opened).bind fun opened => renderPieces opened ps

/-- The text that markup shows, unless it closes a style that is not open. -/
def render? (markup : Text) : Option Text := renderPieces [] (piecesAfter [] 0 markup)

end Rewards.Display.Markup
