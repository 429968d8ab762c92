import Rewards.Failure
import Rewards.Text.Case

/-! Paths: their parts, the form in which they are shown, and the suffix of the last part. -/

namespace Rewards

/-- A path is relative unless it starts at a root, which one slash or two name. -/
structure Path where
  root : Text
  parts : List Text
  deriving DecidableEq, Repr

namespace Path

/-- Slashes are one wherever they follow each other, but two at the start are not three. -/
def rootOf (s : Text) : Text :=
  match s.takeWhile (· = '/') with
  | [] => []
  | ['/', '/'] => ['/', '/']
  | _ => ['/']

/-- Empty parts and those that stay where they are do not count. -/
def ofText (s : Text) : Path :=
  ⟨rootOf s, (Text.pieces '/' s).filter fun p => !p.isEmpty && p != ['.']⟩

def toText (p : Path) : Text :=
  match p.root, p.parts with
  | [], [] => ['.']
  | root, parts => root ++ Text.joined ['/'] parts

def name (p : Path) : Text := p.parts.getLast?.getD []

/-- The end of the name from its last point on, unless the name starts or ends with that point. -/
def suffix (p : Path) : Text :=
  let after := (p.name.reverse.takeWhile (· ≠ '.')).reverse
  let before := p.name.length - after.length - 1
  if after.isEmpty ∨ before = 0 then [] else '.' :: after

end Path

end Rewards
