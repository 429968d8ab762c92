import Mathlib.Data.List.Basic
import Rewards.Outcome
import Rewards.Text.Utf8

/-!
Which bytes are UTF-8. A text is read from exactly those bytes that encode it, all at once or piece by
piece; wherever they are cut, only the start of one character is left.
-/

namespace Rewards.Utf8

section Lead

variable {b : UInt8} {l : Lead}

end Lead

section Following

variable {low high : UInt8} {n : Nat} {bs ms : Bytes}

/-- A byte that goes on with a character. -/
def Continues (m : UInt8) : Prop := 0x80 ≤ m ∧ m ≤ 0xbf

/-- The next byte is in the range, and those behind it go on with a character. -/
def Fits (low high : UInt8) : Bytes → Prop
  | [] => True
  | m :: ms => (low ≤ m ∧ m ≤ high) ∧ ∀ c ∈ ms, Continues c

theorem Fits.tail {m : UInt8} (h : Fits low high (m :: ms)) : Fits 0x80 0xbf ms := by
  cases ms with
  | nil => exact trivial
  | cons c ms => exact List.forall_mem_cons.1 h.2

theorem Fits.of_append (h : Fits low high (bs ++ ms)) : Fits low high bs := by
  cases bs with
  | nil => exact trivial
  | cons b bs => exact ⟨h.1, fun c hc => h.2 c (List.mem_append_left _ hc)⟩

end Following

section Row

variable {v : Nat} {b : UInt8} {ms : Bytes}

end Row

section Scan

variable {c : Char} {bs : Bytes}

/-- What is read behind a character. -/
def behind (c : Char) (r : Text × Bytes) : Text × Bytes := (c :: r.1, r.2)

end Scan

end Rewards.Utf8
