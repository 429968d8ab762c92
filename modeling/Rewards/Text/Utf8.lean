import Rewards.Text.Quoted

/-!
Reading bytes as UTF-8. Of bytes that are no UTF-8, the first character that cannot be read is
reported: where it starts, and how many of its bytes were still in order.
-/

namespace Rewards

abbrev Bytes := List UInt8

/-- Why bytes are no character: none starts with the first one, the next one does not go on with
it, or the bytes end too early. -/
inductive ByteFlaw where
  | start | continuation | truncated
  deriving DecidableEq, Repr

/-- The bytes `first` to `last` are no character; `byte` is the first of them. -/
structure BadBytes where
  flaw : ByteFlaw
  first : Nat
  last : Nat
  byte : UInt8
  deriving DecidableEq, Repr

def ByteFlaw.reason : ByteFlaw → Text
  | start => "invalid start byte"
  | continuation => "invalid continuation byte"
  | truncated => "unexpected end of data"

def BadBytes.message (b : BadBytes) : Text :=
  "'utf-8' codec can't decode " ++ place ++ ": " ++ b.flaw.reason
where
  place : Text :=
    if b.first = b.last then
      "byte 0x" ++ Text.hex 2 b.byte.toNat ++ " in position " ++ Text.numeral b.first
    else "bytes in position " ++ Text.numeral b.first ++ "-" ++ Text.numeral b.last

namespace Utf8

/-- How a character of several bytes starts: bits of its number, how many bytes follow, and the
range of the next one, which leaves out numbers that need fewer bytes and those of no character. -/
structure Lead where
  bits : Nat
  more : Nat
  low : UInt8
  high : UInt8

def lead? (b : UInt8) : Option Lead :=
  if b < 0xc2 then none
  else if b < 0xe0 then some ⟨b.toNat - 0xc0, 1, 0x80, 0xbf⟩
  else if b < 0xf0 then
    some ⟨b.toNat - 0xe0, 2, if b = 0xe0 then 0xa0 else 0x80, if b = 0xed then 0x9f else 0xbf⟩
  else if b < 0xf5 then
    some ⟨b.toNat - 0xf0, 3, if b = 0xf0 then 0x90 else 0x80, if b = 0xf4 then 0x8f else 0xbf⟩
  else none

/-- The bytes, at most `n`, that go on with a character whose next byte is between two others. -/
def following (low high : UInt8) : Nat → Bytes → Bytes
  | n + 1, b :: bs => if low ≤ b ∧ b ≤ high then b :: following 0x80 0xbf n bs else []
  | _, _ => []

theorem following_length_le (low high : UInt8) (n : Nat) (bs : Bytes) :
    (following low high n bs).length ≤ n := by
  induction n generalizing low high bs with
  | zero => simp [following]
  | succ n ih =>
    cases bs with
    | nil => simp [following]
    | cons b bs =>
      rw [following]
      split
      · simpa using ih _ _ bs
      · simp

/-- The character that has these bits and those of the bytes that follow, six in each. -/
def assemble (bits : Nat) (more : Bytes) : Char :=
  Char.ofNat (more.foldl (fun n b => 64 * n + b.toNat % 64) bits)

/-- The characters of bytes that start at a position, and the bytes at the end that may start one
more. -/
def scan (position : Nat) : Bytes → Except BadBytes (Text × Bytes)
  | [] => .ok ([], [])
  | b :: bs =>
    if b < 0x80 then do
      let (t, rest) ← scan (position + 1) bs
      return (Char.ofNat b.toNat :: t, rest)
    else match lead? b with
      | none => .error ⟨.start, position, position, b⟩
      | some l =>
        let more := following l.low l.high l.more bs
        if more.length = l.more then do
          let (t, rest) ← scan (position + more.length + 1) (bs.drop more.length)
          return (assemble l.bits more :: t, rest)
        else if more.length = bs.length then .ok ([], b :: bs)
        else .error ⟨.continuation, position, position + more.length, b⟩
termination_by bs => bs.length
decreasing_by all_goals simp only [List.length_cons, List.length_drop]; omega

/-- The end of bytes that stop inside a character. -/
def finish (position : Nat) (t : Text) : Bytes → Except BadBytes Text
  | [] => .ok t
  | b :: bs => .error ⟨.truncated, position, position + bs.length, b⟩

def decode (bs : Bytes) : Except BadBytes Text := do
  let (t, rest) ← scan 0 bs
  finish (bs.length - rest.length) t rest

/-- Reads pieces one after another. What a piece leaves goes in front of the next, and positions
count from there. -/
def decodePieces (left : Bytes) : List Bytes → Except BadBytes Text
  | [] => finish 0 [] left
  | piece :: pieces => do
    let (t, rest) ← scan 0 (left ++ piece)
    return t ++ (← decodePieces rest pieces)

/-- The pieces of a given positive size; the last one may be shorter. -/
def pieces (size : Nat) : Bytes → List Bytes
  | [] => []
  | b :: bs => (b :: bs.take (size - 1)) :: pieces size (bs.drop (size - 1))
termination_by bs => bs.length
decreasing_by simp only [List.length_cons, List.length_drop]; omega

theorem flatten_pieces (size : Nat) : ∀ bs : Bytes, (pieces size bs).flatten = bs
  | [] => by simp [pieces]
  | b :: bs => by
    rw [pieces, List.flatten_cons, flatten_pieces size (bs.drop (size - 1)), List.cons_append,
      List.take_append_drop]
termination_by bs => bs.length
decreasing_by simp only [List.length_cons, List.length_drop]; omega

end Utf8

end Rewards
