import Rewards.Proofs.Load.Lenient

/-!
The keys of wave tables. They are read as whole numbers, and keys that a document tells apart may be
the same number, as `1` and `"1"` are. Of the entries of one number only the last counts; of the
others nothing is left, neither a wave nor a message.
-/

namespace Rewards

open Text

namespace Value

def entries : Value → List (Value × Value)
  | mapping es => es
  | _ => []

def text? : Value → Option Text
  | text t => some t
  | _ => none

def elements : Value → List Value
  | list vs => vs
  | _ => []

/-- The value of a field; one that is left out is null. -/
def get (v : Value) (name : Text) : Value := (field? v.entries name).getD null

/-- The arenas in a file, as they are written. -/
def arenas (v : Value) : List Value := (v.get "arenas").elements

end Value

/-- The tables of waves that an arena has. -/
inductive WaveTable where
  | every | after
  deriving DecidableEq

namespace WaveTable

def name : WaveTable → Text
  | every => "every"
  | after => "after"

def rewards : WaveTable → Arena → List (ℤ × List Grantable)
  | every => Arena.every
  | after => Arena.after

/-- Where a wave of an arena stands. -/
def place (w : WaveTable) (arena : Text) (wave : ℤ) : Text :=
  arena ++ ' ' :: w.name ++ ' ' :: integer wave

/-- The entries of the table in an arena, as they are written. -/
def entries (w : WaveTable) (raw : Value) : List (Value × Value) :=
  ((raw.get "waves").get w.name).entries

end WaveTable

namespace Schema

/-- The number that a key is read as. -/
def wave? (key : Value) : Option ℤ := (checkInteger [] key).toOption

/-- What the last key that is read as a number stands for. -/
def lastText? (es : List (Value × Value)) (n : ℤ) : Option Text :=
  (es.reverse.find? fun e => wave? e.1 = some n).bind (·.2.text?)

/-- Entries and what is read from them. -/
def Reads (es : List (Value × Value)) (ps : List (ℤ × Text)) : Prop :=
  List.Forall₂ (fun e p => wave? e.1 = some p.1 ∧ e.2 = .text p.2) es ps

namespace Reads

variable {es : List (Value × Value)} {ps : List (ℤ × Text)}

theorem map_wave? (h : Reads es ps) : es.map (wave? ·.1) = (ps.map (·.1)).map some := by
  induction h with
  | nil => rfl
  | cons h _ ih => rw [List.map_cons, List.map_cons, List.map_cons, h.1, ih]

theorem lookup_reverse (h : Reads es ps) (n : ℤ) : ps.reverse.lookup n = lastText? es n := by
  unfold lastText?
  have hrev := List.forall₂_reverse_iff.2 h
  generalize es.reverse = es', ps.reverse = ps' at hrev
  induction hrev with
  | nil => rfl
  | @cons e p es ps h _ ih =>
    rw [List.lookup_cons, List.find?_cons, h.1]
    by_cases hn : n = p.1
    · rw [hn, beq_self_eq_true, decide_eq_true rfl, Option.bind_some, h.2]
      rfl
    · rw [beq_false_of_ne hn, decide_eq_false (by simpa using Ne.symm hn), ih]

end Reads

/-- The table that is read from entries; a number that comes again takes the new text. -/
def TableFrom (es : List (Value × Value)) (table : WaveTexts) : Prop :=
  ∃ ps, table = Assoc.ofList ps ∧ Reads es ps

namespace TableFrom

variable {es : List (Value × Value)} {table : WaveTexts}

theorem distinct (h : TableFrom es table) : Distinct table := by
  obtain ⟨ps, rfl, -⟩ := h
  exact Assoc.nodup_ofList ps

theorem lookup (h : TableFrom es table) (n : ℤ) : table.lookup n = lastText? es n := by
  obtain ⟨ps, rfl, hps⟩ := h
  rw [Assoc.lookup_ofList, hps.lookup_reverse]

/-- There are as many waves as different numbers among the keys. -/
theorem length (h : TableFrom es table) : table.length = (es.map (wave? ·.1)).dedup.length := by
  obtain ⟨ps, rfl, hps⟩ := h
  rw [Assoc.length_ofList, hps.map_wave?, List.dedup_map_of_injective (Option.some_injective ℤ),
    List.length_map]

end TableFrom

end Schema

namespace Value

end Value

namespace Loading

open Schema

variable (read : Text → Except Failure Grantable)

variable {read}

end Loading

end Rewards
