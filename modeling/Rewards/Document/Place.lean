import Rewards.Text.Basic

/-! Places in a text, and line ends of every kind as one. -/

namespace Rewards

/-- Lines and columns count from 1, the offset from 0. -/
structure Place where
  line : Nat
  column : Nat
  offset : Nat
  deriving DecidableEq, Repr

namespace Text

/-- The place after a part of a text. -/
def placeAfter (s : Text) : Place :=
  ⟨s.count '\n' + 1, (s.reverse.takeWhile (· ≠ '\n')).length + 1, s.length⟩

/-- Carriage returns, alone or before a line feed, become line feeds. -/
def unifyLineEnds : Text → Text
  | [] => []
  | '\r' :: '\n' :: s => '\n' :: unifyLineEnds s
  | '\r' :: s => '\n' :: unifyLineEnds s
  | c :: s => c :: unifyLineEnds s

end Text

end Rewards
