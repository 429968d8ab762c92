/-!
Text as a list of characters: membership in a table of character ranges, the two ends of a text,
and cutting it at a separator.
-/

namespace Rewards

abbrev Text := List Char

instance : Coe String Text := ⟨String.toList⟩

namespace Text

/-- What holds of all characters of a text is decided one character after another, not by going
through all characters there are. -/
instance (priority := high) decidableForallMem {p : Char → Prop} [DecidablePred p] (s : Text) :
    Decidable (∀ c ∈ s, p c) :=
  List.decidableBAll p s

instance (priority := high) decidableForallMemOption {p : Char → Prop} [DecidablePred p]
    (o : Option Char) : Decidable (∀ c ∈ o, p c) :=
  Option.decidableForallMem o

def inRanges (ranges : List (Nat × Nat)) (c : Char) : Bool :=
  ranges.any fun r => r.1 ≤ c.toNat && c.toNat ≤ r.2

/-- The text without the longest tail of characters in `p`. -/
def dropTail (p : Char → Bool) (s : Text) : Text := (s.reverse.dropWhile p).reverse

theorem dropTail_length_le (p : Char → Bool) (s : Text) : (dropTail p s).length ≤ s.length := by
  have := (List.dropWhile_sublist (p := p) (l := s.reverse)).length_le
  simpa [dropTail] using this

/-- The text up to the first `sep`, and what follows that `sep`, if there is one. -/
def cut (sep : Char) : Text → Text × Option Text
  | [] => ([], none)
  | c :: s => if c = sep then ([], some s) else
    let (before, after) := cut sep s
    (c :: before, after)

@[simp] theorem cut_nil (sep : Char) : cut sep [] = ([], none) := rfl

theorem cut_length (sep : Char) (s : Text) :
    (cut sep s).1.length ≤ s.length ∧ ∀ r, (cut sep s).2 = some r → r.length < s.length := by
  induction s with
  | nil => simp
  | cons c s ih =>
    by_cases h : c = sep
    · simp [cut, h]
    · simp only [cut, if_neg h, List.length_cons]
      exact ⟨by omega, fun r hr => by have := ih.2 r hr; omega⟩

theorem cut_not_mem {sep : Char} {s : Text} (h : sep ∉ s) : cut sep s = (s, none) := by
  induction s with
  | nil => rfl
  | cons c s ih =>
    rw [List.mem_cons, not_or] at h
    simp [cut, Ne.symm h.1, ih h.2]

/-- All pieces between the separators; one more than there are separators. -/
def pieces (sep : Char) : Text → List Text
  | [] => [[]]
  | c :: s => match c == sep, pieces sep s with
    | true, ps => [] :: ps
    | false, p :: ps => (c :: p) :: ps
    | false, [] => [[c]]

theorem pieces_length (sep : Char) (s : Text) : (pieces sep s).length = s.count sep + 1 := by
  induction s with
  | nil => rfl
  | cons c s ih =>
    by_cases h : c = sep
    · simp [pieces, h, ih]
    · have : (c == sep) = false := by simpa using h
      simp only [pieces, this]
      split <;> simp_all

/-- The texts one after another with `sep` between neighbours. -/
def joined (sep : Text) : List Text → Text
  | [] => []
  | [t] => t
  | t :: ts => t ++ sep ++ joined sep ts

end Text

end Rewards
