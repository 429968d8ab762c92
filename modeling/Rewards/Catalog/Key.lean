import Rewards.Failure
import Rewards.Text.Blank
import Rewards.Text.Case

/-! Keys of the catalog: a legacy number and a symbolic name, and looking one up by either. -/

namespace Rewards

structure Key where
  id : Nat
  name : Text
  deriving DecidableEq, Repr

namespace Catalog

open Text

/-- Names are compared trimmed and in upper case, and a space or a hyphen counts as `_`. -/
def normalized (name : Text) : Text :=
  (upper (trim name)).map fun c => if c = ' ' ∨ c = '-' then '_' else c

def named? (table : List Key) (name : Text) : Option Key := table.find? (·.name = name)

def numbered? (table : List Key) (id : Nat) : Option Key := table.find? (·.id = id)

theorem named?_mem {table : List Key} {name : Text} {k : Key} (h : named? table name = some k) :
    k ∈ table ∧ k.name = name :=
  ⟨List.mem_of_find?_eq_some h, by simpa using List.find?_some h⟩

theorem numbered?_mem {table : List Key} {id : Nat} {k : Key} (h : numbered? table id = some k) :
    k ∈ table ∧ k.id = id :=
  ⟨List.mem_of_find?_eq_some h, by simpa using List.find?_some h⟩

/-- One or more ASCII digits. -/
def isNumeral (s : Text) : Bool := !s.isEmpty && s.all isAsciiDigit

/-- A numeral is a number of the table, anything else a name. -/
def find? (table : List Key) (text : Text) : Except Fault (Option Key) :=
  if isNumeral text then (natural text).map (numbered? table)
  else .ok (named? table (normalized text))

theorem find?_mem {table : List Key} {text : Text} {k : Key}
    (h : find? table text = .ok (some k)) : k ∈ table := by
  unfold find? at h
  split at h
  · cases hn : natural text with
    | error e => simp [hn, Except.map] at h
    | ok n =>
      simp only [hn, Except.map, Except.ok.injEq] at h
      exact (numbered?_mem h).1
  · simp only [Except.ok.injEq] at h
    exact (named?_mem h).1

end Catalog

end Rewards
