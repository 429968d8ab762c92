import Rewards.Failure
import Rewards.Keyword
import Rewards.Text.Alphanumeric
import Rewards.Text.Blank

/-!
How the tokens of a kind start: with a symbol (`$5`), or with a keyword and a colon (`eco:5`). A
`Label` is what a kind claims, an `Opening` a claim that has been checked.
-/

namespace Rewards

open Text

structure Label where
  keyword : Option Text
  symbol : Option Text
  deriving DecidableEq, Repr

structure Opening where
  keyword : Keyword
  symbol : Option Char
  deriving DecidableEq, Repr

namespace Label

def isKeywordChar (c : Char) : Bool :=
  c.isAlphanum || c = '_' || c = '.' || c = '-' || c = '(' || c = ')'

/-- One line end may follow the keyword. -/
def dropLineEnd (s : Text) : Text := if s.getLast? = some '\n' then s.dropLast else s

/-- Reports the first `)` without a partner, or else the last `(` without one. `opened` holds the
places of the open parentheses, innermost first. -/
def unpaired (whole : Text) : (place : Nat) → (opened : List Nat) → Text → Option KindFlaw
  | _, [], [] => none
  | _, p :: _, [] => some (.unclosed p whole)
  | i, opened, c :: s =>
    if c = '(' then unpaired whole (i + 1) (i :: opened) s
    else if c = ')' then
      match opened with
      | [] => some (.strayClose i whole)
      | _ :: opened => unpaired whole (i + 1) opened s
    else unpaired whole (i + 1) opened s

def keywordFlaw? (keyword : Option Text) : Option KindFlaw :=
  let k := keyword.getD []
  if k.all fun c => c = '(' ∨ c = ')' then some (.emptyKeyword keyword)
  else if (dropLineEnd k).isEmpty || !(dropLineEnd k).all isKeywordChar then
    some (.foreignCharacter k)
  else unpaired k 0 [] k

/-- Quotes, brackets, slashes and separators mean something else in descriptors and in the files
that hold them. -/
def symbolClass? (c : Char) : Option SymbolClass :=
  if isAlphanumeric c then some .alphanumeric
  else if isBlank c then some .blank
  else if "'\"`´".toList.contains c then some .quote
  else if "()[]\x7b\x7d".toList.contains c then some .bracket
  else if "\\/|".toList.contains c then some .slash
  else if ",:;".toList.contains c then some .separator
  else none

def symbolFlaw? : Option Text → Option KindFlaw
  | none => none
  | some [c] => (symbolClass? c).map (.symbolTaken · c)
  | some s => some (.symbolLength s)

def flaw? (l : Label) : Option KindFlaw := (keywordFlaw? l.keyword).or (symbolFlaw? l.symbol)

/-- The opening that the label claims, if it has no flaw. -/
def opening (l : Label) : Except KindFlaw Opening :=
  match l.flaw? with
  | some f => .error f
  | none => .ok ⟨((l.keyword.bind Keyword.ofText?)).getD .done, l.symbol.bind List.head?⟩

end Label

namespace Opening

/-- A body is not empty and has no comma. -/
def isBody (b : Text) : Bool := !b.isEmpty && !b.contains ','

def afterSymbol? (o : Opening) : Text → Option Text
  | [] => none
  | c :: b => if o.symbol = some c ∧ isBody b then some b else none

def afterKeyword? (o : Opening) (token : Text) : Option Text :=
  match cut ':' token with
  | (k, some b) => if o.keyword.isSpelling k ∧ isBody b then some b else none
  | (_, none) => none

/-- The body of a token that starts with the symbol, or else with a keyword and a colon. -/
def body? (o : Opening) (token : Text) : Option Text :=
  (o.afterSymbol? token).or (o.afterKeyword? token)

def claims (o : Opening) (token : Text) : Bool := (o.body? token).isSome

/-- The body of a claimed token; any other token is its own body. -/
def strip (o : Opening) (token : Text) : Text := (o.body? token).getD token

theorem body?_length {o : Opening} {token b : Text} (h : o.body? token = some b) :
    b.length < token.length := by
  rcases Option.or_eq_some_iff.1 h with h | ⟨_, h⟩
  · cases token with
    | nil => cases h
    | cons c s =>
      simp only [afterSymbol?, Option.ite_none_right_eq_some, Option.some.injEq] at h
      simp [h.2]
  · unfold afterKeyword? at h
    split at h
    · rename_i k r hc
      simp only [Option.ite_none_right_eq_some, Option.some.injEq] at h
      have := (cut_length ':' token).2 r (by rw [hc])
      rwa [h.2] at this
    · cases h

end Opening

end Rewards
