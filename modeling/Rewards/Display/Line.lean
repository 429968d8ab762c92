import Rewards.Display.Width
import Rewards.Text.Blank

/-! Breaking text into lines of a given width, and fitting a line into its place. -/

namespace Rewards.Display

open Text

/-- Words with the white space around them: that before the first word, and after each one. -/
def wordsWithGaps (s : Text) : List Text :=
  let gap := s.takeWhile isBlank
  match wordsFrom (s.drop gap.length) with
  | [] => []
  | w :: ws => (gap ++ w) :: ws
where
  wordsFrom : Text → List Text
    | [] => []
    | c :: s =>
      let word := s.takeWhile fun d => !isBlank d
      let gap := (s.drop word.length).takeWhile isBlank
      (c :: word ++ gap) :: wordsFrom (s.drop (word.length + gap.length))
  termination_by s => s.length
  decreasing_by simp only [List.length_cons, List.length_drop]; omega

/-- What to do about a word that is wider than a line. -/
inductive Overflow where
  | fold | ellipsis
  deriving DecidableEq, Repr

/-- The longest parts, one after another, that are no wider than a line, but of one character at
least. -/
def chopped (limit : Nat) (part : Text) : Text → List Text
  | [] => [part]
  | c :: s =>
    if limit < width part + charWidth c then part :: chopped limit [c] s
    else chopped limit (part ++ [c]) s

theorem chopped_flatten (limit : Nat) (part s : Text) :
    (chopped limit part s).flatten = part ++ s := by
  induction s generalizing part with
  | nil => simp [chopped]
  | cons c s ih =>
    rw [chopped]
    split <;> simp [ih]

/-- Lines that are finished, last one first, and the line that is being filled. -/
structure Fill where
  finished : List Text
  line : Text

namespace Fill

def start : Fill := ⟨[], []⟩

def lines (f : Fill) : List Text := (f.line :: f.finished).reverse

/-- Only the start of the text needs no new line. -/
def newLine (f : Fill) (t : Text) : Fill :=
  if f.finished.isEmpty ∧ f.line.isEmpty then ⟨[], t⟩ else ⟨f.line :: f.finished, t⟩

/-- Puts a word on the line if it fits there, without the white space after it. -/
def add (limit : Nat) (overflow : Overflow) (f : Fill) (word : Text) : Fill :=
  let own := width (dropTail isBlank word)
  if width f.line + own ≤ limit then ⟨f.finished, f.line ++ word⟩
  else if limit < own ∧ overflow = .fold then (chopped limit [] word).foldl newLine f
  else f.newLine word

end Fill

def broken (limit : Nat) (overflow : Overflow) (s : Text) : List Text :=
  let ws := wordsWithGaps s
  if ws.isEmpty then [s] else (ws.foldl (Fill.add limit overflow) .start).lines

/-- Cuts text to a width. Half of a wide character shows as a space. -/
def cropped : Nat → Text → Text
  | 0, _ => []
  | _, [] => []
  | n + 1, c :: s =>
    if charWidth c ≤ n + 1 then c :: cropped (n + 1 - charWidth c) s else [' ']
termination_by _ s => s.length

theorem width_cropped_le (n : Nat) (s : Text) : width (cropped n s) ≤ n := by
  fun_induction cropped n s with
  | case1 => simp
  | case2 => simp
  | case3 n c s h ih => rw [width_cons]; omega
  | case4 n c s h => simp

def truncated (limit : Nat) (overflow : Overflow) (s : Text) : Text :=
  if width s ≤ limit then s
  else match overflow with
    | .fold => cropped limit s
    | .ellipsis => cropped (limit - 1) s ++ ['…']

theorem width_truncated_le {limit : Nat} (h : 0 < limit) (overflow : Overflow) (s : Text) :
    width (truncated limit overflow s) ≤ limit := by
  unfold truncated
  split
  · assumption
  · cases overflow with
    | fold => exact width_cropped_le limit s
    | ellipsis =>
      have dots : charWidth '…' = 1 := by decide +kernel
      have := width_cropped_le (limit - 1) s
      simp only [width_append, width_cons, width_nil, dots]
      omega

def blanks (n : Nat) : Text := List.replicate n ' '

@[simp] theorem width_blanks (n : Nat) : width (blanks n) = n := by
  simp [width, blanks]

/-- Leaves out white space at the end that goes beyond the line. -/
def trimEnd (limit : Nat) (s : Text) : Text :=
  let gap := (s.reverse.takeWhile isBlank).length
  s.take (s.length - min gap (s.length - limit))

inductive Align where
  | none | left | center | right
  deriving DecidableEq, Repr

/-- A line in its place. To center it, an odd space goes to the right. -/
def aligned (align : Align) (limit : Nat) (overflow : Overflow) (s : Text) : Text :=
  match align with
  | .none => truncated limit overflow s
  | .left =>
    let s := truncated limit overflow s
    s ++ blanks (limit - width s)
  | .center =>
    let s := truncated limit overflow (dropTail isBlank s)
    let before := (limit - width s) / 2
    blanks before ++ s ++ blanks (limit - width s - before)
  | .right =>
    let s := truncated limit overflow (dropTail isBlank s)
    blanks (limit - width s) ++ s

theorem width_aligned {align : Align} (ha : align ≠ .none) {limit : Nat} (h : 0 < limit)
    (overflow : Overflow) (s : Text) : width (aligned align limit overflow s) = limit := by
  cases align with
  | none => exact absurd rfl ha
  | left =>
    have := width_truncated_le h overflow s
    simp only [aligned, width_append, width_blanks]
    omega
  | center | right =>
    have := width_truncated_le h overflow (dropTail isBlank s)
    simp only [aligned, width_append, width_blanks]
    omega

def tabSize : Nat := 8

/-- Spaces up to the next tab stop for each tab; `column` is where the text starts. -/
def expandTabs (column : Nat) : Text → Text
  | [] => []
  | c :: s =>
    if c = '\t' then
      let n := tabSize - column % tabSize
      blanks n ++ expandTabs (column + n) s
    else c :: expandTabs (column + charWidth c) s

/-- Characters that move the cursor and so may not be part of a line. -/
def isControl (c : Char) : Bool :=
  c == '\x07' || c == '\x08' || c == '\x0b' || c == '\x0c' || c == '\r'

def printable (s : Text) : Text := s.filter fun c => !isControl c

/-- The lines of a text in a column; lines that do not wrap are cut. -/
def lines (align : Align) (limit : Nat) (overflow : Overflow) (wraps : Bool) (s : Text) :
    List Text :=
  (pieces '\n' (printable s)).flatMap fun line =>
    let line := expandTabs 0 line
    let parts := if wraps then broken limit overflow line else [line]
    parts.map fun part => aligned align limit overflow (trimEnd limit part)

/-- Lines of output hold this many cells. -/
def pageWidth : Nat := 1000

/-- Text as it stands in the output, where every line ends. -/
def printed (s : Text) : Text :=
  (lines .none pageWidth .fold true s).flatMap fun line => line ++ ['\n']

end Rewards.Display
