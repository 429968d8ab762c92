import Mathlib.Data.List.TakeWhile
import Rewards.Document.Json
import Rewards.Proofs.Fault

/-!
What a JSON reader does with any text. What it leaves is the end of what it was given, all keys of the
values that it reads are texts, and only a numeral that is too long makes a fault.
-/

namespace Rewards

namespace Text

/-- More ASCII digits in a row than a numeral may have. -/
def HasLongRun (s : Text) : Prop := ∃ ds, ds <:+: s ∧ (∀ c ∈ ds, isAsciiDigit c) ∧ maxDigits < ds.length

theorem HasLongRun.stretch {s t : Text} (h : HasLongRun s) (hi : s <:+: t) : HasLongRun t := by
  obtain ⟨ds, hds, hd, hl⟩ := h
  exact ⟨ds, hds.trans hi, hd, hl⟩

end Text

namespace Json

open Text

/-- Every key in the value is a text. -/
inductive TextKeys : Value → Prop
  | null : TextKeys .null
  | bool (b : Bool) : TextKeys (.bool b)
  | int (n : Int) : TextKeys (.int n)
  | float (x : Float) : TextKeys (.float x)
  | text (t : Text) : TextKeys (.text t)
  | list {vs : List Value} (h : ∀ v ∈ vs, TextKeys v) : TextKeys (.list vs)
  | mapping {es : List (Value × Value)} (hk : ∀ e ∈ es, ∃ t, e.1 = .text t)
      (hv : ∀ e ∈ es, TextKeys e.2) : TextKeys (.mapping es)

/-- What may come of reading a front part of a text: a value of some kind and the end of the text, a
flaw, or the fault of a numeral that is too long. -/
def Reads {α : Type} (s : Text) (p : α → Prop) : Reading (α × Text) → Prop
  | .ok (a, r) => p a ∧ r <:+ s
  | .error (.flaw _ _) => True
  | .error (.fault _) => HasLongRun s

section Reads

variable {α β : Type} {s s' : Text} {p : α → Prop} {q : β → Prop} {x : Reading (α × Text)}

theorem Reads.of_suffix (h : Reads s p x) (hs : s <:+ s') : Reads s' p x := by
  match x, h with
  | .ok (a, r), h => exact ⟨h.1, h.2.trans hs⟩
  | .error (.flaw _ _), _ => trivial
  | .error (.fault _), h => exact HasLongRun.stretch h hs.isInfix

theorem Reads.bind {f : α × Text → Reading (β × Text)} (h : Reads s p x)
    (hf : ∀ a r, p a → r <:+ s → Reads s q (f (a, r))) : Reads s q (x >>= f) := by
  match x, h with
  | .ok (a, r), h => exact hf a r h.1 h.2
  | .error (.flaw _ _), _ => trivial
  | .error (.fault _), h => exact h

end Reads

/-- A value of which one more character or element has been read. -/
theorem Reads.more {α β : Type} {s s' : Text} {p : α → Prop} {q : β → Prop} {x : Reading (α × Text)}
    (h : Reads s p x) (hs : s <:+ s') (f : α → β) (hf : ∀ a, p a → q (f a)) :
    Reads s' q (x >>= fun r => pure (f r.1, r.2)) :=
  (h.of_suffix hs).bind fun a _ ha hr => ⟨hf a ha, hr⟩

section Number

/-- The parts of a number at the start of a text. -/
def minus (s : Text) : Text × Text :=
  match s with
  | '-' :: r => (['-'], r)
  | r => ([], r)

def whole (s : Text) : Text :=
  match s with
  | '0' :: _ => ['0']
  | r => r.takeWhile isAsciiDigit

def fraction (s : Text) : Text :=
  match s with
  | '.' :: r =>
    let digits := r.takeWhile isAsciiDigit
    if digits.isEmpty then [] else '.' :: digits
  | _ => []

def exponent (s : Text) : Text :=
  match s with
  | e :: r =>
    if e = 'e' ∨ e = 'E' then
      let sign := r.takeWhile (fun c => c = '+' ∨ c = '-') |>.take 1
      let digits := (r.drop sign.length).takeWhile isAsciiDigit
      if digits.isEmpty then [] else e :: sign ++ digits
    else []
  | [] => []

end Number

/-- Fields with names that are texts. -/
def Named (es : List (Value × Value)) : Prop := ∀ e ∈ es, (∃ t, e.1 = .text t) ∧ TextKeys e.2

section Step

variable {n : Nat} (hv : ∀ s, Reads s TextKeys (value n s))
  (he : ∀ s, Reads s (fun vs => ∀ v ∈ vs, TextKeys v) (elements n s))
  (hf : ∀ s, Reads s Named (fields n s))

end Step

end Json

end Rewards
