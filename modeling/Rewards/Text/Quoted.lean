import Rewards.Text.Digit
import Rewards.Text.Printable

/-!
A text between quotes. Single quotes are used, or double ones for a text that has single quotes
only; line ends, tabs and characters that do not print are escaped by number.
-/

namespace Rewards.Text

def hex (width n : Nat) : Text :=
  let ds := Nat.toDigits 16 n
  List.replicate (width - ds.length) '0' ++ ds

def quoteFor (s : Text) : Char := if s.contains '\'' ∧ ¬ s.contains '"' then '"' else '\''

def escaped (quote c : Char) : Text :=
  if c = quote ∨ c = '\\' then ['\\', c]
  else if c = '\n' then ['\\', 'n']
  else if c = '\r' then ['\\', 'r']
  else if c = '\t' then ['\\', 't']
  else if isPrintable c then [c]
  else if c.toNat < 0x100 then '\\' :: 'x' :: hex 2 c.toNat
  else if c.toNat < 0x10000 then '\\' :: 'u' :: hex 4 c.toNat
  else '\\' :: 'U' :: hex 8 c.toNat

def literal (s : Text) : Text := quoteFor s :: s.flatMap (escaped (quoteFor s)) ++ [quoteFor s]

end Rewards.Text
