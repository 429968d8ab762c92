import Rewards.Text.Basic

/-!
Keyword expressions. A part in parentheses may be left out, so `p(erm(ission))` is spelled `p`,
`perm` or `permission`. The words that spell an expression are listed by `spellings` and recognised
by `advance`, which follows all of them through a text at once.
-/

namespace Rewards

inductive Keyword where
  | done
  | letter (c : Char) (rest : Keyword)
  | optional (inner rest : Keyword)
  deriving DecidableEq, Repr

namespace Keyword

/-- The expression up to the first parenthesis without a partner, and the expressions after each
such parenthesis. -/
def readOpen : Text → Option (Keyword × List Keyword)
  | [] => some (done, [])
  | c :: s => do
    let (k, outer) ← readOpen s
    if c = ')' then some (done, k :: outer)
    else if c = '(' then
      match outer with
      | [] => none
      | rest :: outer => some (optional k rest, outer)
    else some (letter c k, outer)

/-- The expression that a text with balanced parentheses writes. -/
def ofText? (s : Text) : Option Keyword :=
  match readOpen s with
  | some (k, []) => some k
  | _ => none

def toText : Keyword → Text
  | done => []
  | letter c k => c :: toText k
  | optional inner k => '(' :: toText inner ++ ')' :: toText k

def spellings : Keyword → List Text
  | done => [[]]
  | letter c k => (spellings k).map (c :: ·)
  | optional inner k => ([] :: spellings inner).flatMap fun a => (spellings k).map (a ++ ·)

/-- What is left of the texts after each spelling that one of them starts with. -/
def advance : Keyword → List Text → List Text
  | done, ss => ss
  | letter c k, ss =>
    advance k (ss.filterMap fun s => if s.head? = some c then some s.tail else none)
  | optional inner k, ss => advance k (ss ++ advance inner ss).eraseDups

def isSpelling (k : Keyword) (s : Text) : Bool := (advance k [s]).contains []

theorem mem_advance {k : Keyword} {ss : List Text} {t : Text} :
    t ∈ advance k ss ↔ ∃ w ∈ spellings k, w ++ t ∈ ss := by
  induction k generalizing ss t with
  | done => simp [advance, spellings]
  | letter c k ih =>
    simp only [advance, spellings, ih, List.mem_filterMap, List.mem_map]
    constructor
    · rintro ⟨w, hw, s, hs, h⟩
      split at h
      · rename_i hc
        obtain ⟨d, r, rfl⟩ := List.exists_cons_of_ne_nil (l := s) (by rintro rfl; simp at hc)
        simp only [List.head?_cons, Option.some.injEq, List.tail_cons] at hc h
        exact ⟨c :: w, ⟨w, hw, rfl⟩, by simpa [← hc, ← h] using hs⟩
      · cases h
    · rintro ⟨_, ⟨w, hw, rfl⟩, h⟩
      exact ⟨w, hw, c :: (w ++ t), h, by simp⟩
  | optional inner k ihi ihk =>
    simp only [advance, spellings, ihk, List.mem_eraseDups, List.mem_append, ihi,
      List.mem_flatMap, List.mem_cons, List.mem_map]
    constructor
    · rintro ⟨w, hw, h | ⟨v, hv, h⟩⟩
      · exact ⟨w, ⟨[], .inl rfl, w, hw, rfl⟩, h⟩
      · exact ⟨v ++ w, ⟨v, .inr hv, w, hw, rfl⟩, by simpa using h⟩
    · rintro ⟨_, ⟨v, hv | hv, w, hw, rfl⟩, h⟩
      · exact ⟨w, hw, .inl (by simpa [hv] using h)⟩
      · exact ⟨w, hw, .inr ⟨v, hv, by simpa using h⟩⟩

theorem isSpelling_iff {k : Keyword} {s : Text} : isSpelling k s ↔ s ∈ spellings k := by
  simp [isSpelling, mem_advance]

/-- Characters that a pattern has to escape. -/
def patternSpecial : Text := "()[]\x7b\x7d?*+-|^$\\.&~# \t\n\r\x0b\x0c".toList

/-- The expression as a regular expression. -/
def pattern (s : Text) : Text := s.flatMap fun c =>
  if c = '(' then "(?:".toList
  else if c = ')' then ")?".toList
  else if patternSpecial.contains c then ['\\', c]
  else [c]

end Keyword

end Rewards
