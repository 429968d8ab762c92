import Rewards.Text.Basic

/-! The blank characters of Unicode; trimming a text and splitting it into words. -/

namespace Rewards.Text

/-- Spaces of every width, tabs, line and paragraph ends, and the four information separators
U+001C to U+001F. The zero width space and the byte order mark are not blank. -/
def isBlank (c : Char) : Bool :=
  inRanges [(0x09, 0x0d), (0x1c, 0x20), (0x85, 0x85), (0xa0, 0xa0), (0x1680, 0x1680),
    (0x2000, 0x200a), (0x2028, 0x2029), (0x202f, 0x202f), (0x205f, 0x205f), (0x3000, 0x3000)] c

theorem isBlank_of_isWhitespace {c : Char} (h : c.isWhitespace) : isBlank c := by
  simp only [Char.isWhitespace, Bool.or_eq_true, decide_eq_true_eq] at h
  rcases h with ((rfl | rfl) | rfl) | rfl <;> decide

def trim (s : Text) : Text := dropTail isBlank (s.dropWhile isBlank)

theorem trim_length_le (s : Text) : (trim s).length ≤ s.length :=
  Nat.le_trans (dropTail_length_le _ _) (List.dropWhile_sublist _).length_le

/-- The longest pieces without a blank. -/
def words : Text → List Text
  | [] => []
  | c :: s => if isBlank c then words s else
    match s with
    | [] => [[c]]
    | d :: _ => if isBlank d then [c] :: words s else
      match words s with
      | w :: ws => (c :: w) :: ws
      | [] => [[c]]

end Rewards.Text
