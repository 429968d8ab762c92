import Rewards.Failure
import Rewards.Outcome
import Rewards.Text.Blank

/-!
Splitting a descriptor into its top-level tokens. Tokens stand between commas, and a group in
parentheses is one token, whatever it contains.
-/

namespace Rewards.Token

open Text

/-- Splits after the parenthesis that closes the outermost of `depth` open ones. -/
def closing (depth : Nat) : Text → Option (Text × Text)
  | [] => none
  | c :: s =>
    if c = ')' ∧ depth ≤ 1 then some ([c], s) else
    let depth := if c = '(' then depth + 1 else if c = ')' then depth - 1 else depth
    (closing depth s).map fun r => (c :: r.1, r.2)

theorem closing_append {d : Nat} {s g r : Text} (h : closing d s = some (g, r)) : g ++ r = s := by
  induction s generalizing d g with
  | nil => simp [closing] at h
  | cons c s ih =>
    unfold closing at h
    split at h
    · simp only [Option.some.injEq, Prod.mk.injEq] at h
      simp [← h.1, ← h.2]
    · obtain ⟨⟨g', r'⟩, h', e⟩ := Option.map_eq_some_iff.1 h
      simp only [Prod.mk.injEq] at e
      obtain ⟨rfl, rfl⟩ := e
      rw [List.cons_append, ih h']

theorem closing_length {d : Nat} {s g r : Text} (h : closing d s = some (g, r)) :
    g.length + r.length = s.length := by
  simpa using congrArg List.length (closing_append h)

/-- What follows the first comma and the spaces after it. -/
def afterComma (s : Text) : Text := ((cut ',' s).2.getD []).dropWhile (· = ' ')

theorem afterComma_length {s : Text} (h : s ≠ []) : (afterComma s).length < s.length := by
  unfold afterComma
  refine Nat.lt_of_le_of_lt (List.dropWhile_sublist _).length_le ?_
  cases hc : (cut ',' s).2 with
  | none => exact List.length_pos_iff.2 h
  | some r => exact (cut_length ',' s).2 r hc

theorem afterComma_length_le (s : Text) : (afterComma s).length ≤ s.length := by
  by_cases h : s = []
  · simp [h, afterComma]
  · exact Nat.le_of_lt (afterComma_length h)

/-- The segment up to the next comma. -/
def segment (s : Text) : Text := trim (cut ',' s).1

/-- The tokens of `rest`, the part of `whole` that is still to be split. -/
def split (whole : Text) : (rest : Text) → Except GroupFlaw (List Text)
  | [] => .ok []
  | c :: s =>
    if c = ')' then .error (.strayClose (whole.length - (s.length + 1)) whole)
    else if c = '(' then
      match h : closing 1 s with
      | none => .error (.unclosed (c :: s))
      | some (body, after) =>
        -- Only white space may stand between a group and the next comma.
        if segment after ≠ [] then .error (.trailing (segment after) (c :: body))
        else
          have := closing_length h
          have := afterComma_length_le after
          (split whole (afterComma after)).map ((c :: body) :: ·)
    else
      have := afterComma_length (List.cons_ne_nil c s)
      if segment (c :: s) = [] then split whole (afterComma (c :: s))
      else (split whole (afterComma (c :: s))).map (segment (c :: s) :: ·)
termination_by rest => rest.length
decreasing_by all_goals simp_all; try omega

/-- No token is longer than the text. -/
theorem split_length {whole rest : Text} {ts : List Text} (h : split whole rest = .ok ts) :
    ∀ t ∈ ts, t.length ≤ rest.length := by
  fun_induction split whole rest generalizing ts with
  | case1 => cases h; simp
  | case2 => cases h
  | case3 => cases h
  | case4 => cases h
  | case5 c s _ body after hc _ hl ih =>
    obtain ⟨us, hu, rfl⟩ := Outcome.map_eq_ok_iff.1 h
    intro t ht
    rcases List.mem_cons.1 ht with rfl | ht
    · simp only [List.length_cons]; omega
    · have := ih hu t ht
      simp only [List.length_cons]; omega
  | case6 c s _ _ hl _ ih =>
    intro t ht
    have := ih h t ht
    omega
  | case7 c s _ _ hl _ ih =>
    obtain ⟨us, hu, rfl⟩ := Outcome.map_eq_ok_iff.1 h
    intro t ht
    rcases List.mem_cons.1 ht with rfl | ht
    · exact Nat.le_trans (trim_length_le _) (cut_length ',' _).1
    · have := ih hu t ht
      omega

end Token

/-- The top-level tokens of a descriptor, in order. -/
def tokens (text : Text) : Except GroupFlaw (List Text) :=
  Token.split (Text.trim text) (Text.trim text)

theorem tokens_nil : tokens [] = .ok [] := by
  rw [tokens, show Text.trim [] = [] from rfl, Token.split]

theorem tokens_length {text : Text} {ts : List Text} (h : tokens text = .ok ts) :
    ∀ t ∈ ts, t.length ≤ text.length := fun t ht =>
  Nat.le_trans (Token.split_length h t ht) (Text.trim_length_le text)

/-- Tokens that are handed out one at a time. -/
structure TokenQueue where
  left : List Text
  deriving DecidableEq, Repr

namespace TokenQueue

def ofText (text : Text) : Except GroupFlaw TokenQueue := (tokens text).map TokenQueue.mk

def hasNext (q : TokenQueue) : Bool := !q.left.isEmpty

def next? (q : TokenQueue) : Option (Text × TokenQueue) :=
  match q.left with
  | [] => none
  | t :: ts => some (t, ⟨ts⟩)

/-- The next token; an empty queue stays as it is. -/
def next (q : TokenQueue) : Except Refusal Text × TokenQueue :=
  match q.next? with
  | some (t, q') => (.ok t, q')
  | none => (.error (.lack .exhausted), q)

end TokenQueue

end Rewards
