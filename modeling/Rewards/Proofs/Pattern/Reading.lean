import Rewards.Pattern
import Rewards.Proofs.Keyword

/-!
How the pattern of a label is read: the keyword item by item, and around it the symbol and the body.
-/

namespace Rewards

namespace Lexeme

theorem ofText?_char {c : Char} (h : c ∉ metacharacters) (s : Text) :
    ofText? (c :: s) = (ofText? s).map (char c :: ·) := by
  rw [ofText?, if_neg (by simpa using h)]
  -- None of the other cases is about a character that stands for itself.
  all_goals
    intros
    subst_vars
    exact h (by decide)

/-- What `escaped` writes is read as one character. -/
theorem ofText?_escaped (c : Char) (s : Text) :
    ofText? (Pattern.escaped [c] ++ s) = (ofText? s).map (char c :: ·) := by
  have halpha : ∀ c ∈ Keyword.patternSpecial, c.isAlphanum = false := by decide
  have hmeta : ∀ c ∈ metacharacters, c ∈ Keyword.patternSpecial := by decide
  rw [Pattern.escaped, List.flatMap_singleton]
  split
  · rename_i h
    rw [List.contains_iff_mem] at h
    simp [ofText?, halpha c h]
  · rename_i h
    rw [List.contains_iff_mem] at h
    exact ofText?_char (fun hc => h (hmeta c hc)) s

end Lexeme

namespace Pattern

/-- One pattern after another. -/
def sequence (ps : List Pattern) : Pattern := ps.foldr chain empty

theorem Frame.branch_eq (f : Frame) : f.branch = sequence f.items.reverse :=
  (List.foldr_reverse ..).symm

end Pattern

namespace Keyword

/-- The lexemes of the pattern of an expression. -/
def lexemes : Keyword → List Lexeme
  | done => []
  | letter c k => .char c :: lexemes k
  | optional inner k => .bracket :: (lexemes inner ++ .close :: .maybe :: lexemes k)

/-- The items of the pattern of an expression. -/
def items : Keyword → List Pattern
  | done => []
  | letter c k => .char c :: items k
  | optional inner k => .optional (.sequence (items inner)) :: items k

/-- What `pattern` writes is read as the lexemes of the expression. -/
theorem lexemes_pattern {k : Keyword} (hk : Plain k) (s : Text) :
    Lexeme.ofText? (pattern k.toText ++ s) = (Lexeme.ofText? s).map (k.lexemes ++ ·) := by
  induction k generalizing s with
  | done => simp [toText, pattern, lexemes]
  | letter c k ih =>
    obtain ⟨⟨hopen, hclose⟩, hk⟩ := plain_letter.1 hk
    have h : pattern (toText (letter c k)) = Pattern.escaped [c] ++ pattern k.toText := by
      simp only [toText, pattern, Pattern.escaped, List.flatMap_cons, List.flatMap_nil, if_neg hopen,
        if_neg hclose, List.append_nil]
    rw [h, List.append_assoc, Lexeme.ofText?_escaped, ih hk, Option.map_map]
    rfl
  | optional inner k ihi ihk =>
    obtain ⟨hi, hk⟩ := plain_optional.1 hk
    have h : pattern (toText (optional inner k)) =
        "(?:".toList ++ (pattern inner.toText ++ (")?".toList ++ pattern k.toText)) := by
      simp [toText, pattern]
    have hopen : ∀ s, Lexeme.ofText? ("(?:".toList ++ s) =
        (Lexeme.ofText? s).map (.bracket :: ·) := fun _ => rfl
    have hclose : ∀ s, Lexeme.ofText? (")?".toList ++ s) =
        (Lexeme.ofText? s).map (.close :: .maybe :: ·) := by
      intro s
      simp [Lexeme.ofText?, Function.comp_def]
    rw [h, List.append_assoc, hopen, List.append_assoc, ihi hi, List.append_assoc, hclose, ihk hk]
    simp [lexemes, Function.comp_def]

/-- A group in brackets is one item, whatever it holds, and so may be made optional. -/
theorem maybe?_push_sequence (f : Pattern.Frame) (ps : List Pattern) :
    (f.push (.sequence ps)).maybe? = some (f.push (.optional (.sequence ps))) := by
  cases ps <;> rfl

theorem readIn_lexemes (k : Keyword) (n : Nat) (f : Pattern.Frame) (outer : List Pattern.Frame)
    (ls : List Lexeme) : Pattern.readIn n f outer (k.lexemes ++ ls) =
      Pattern.readIn n { f with items := k.items.reverse ++ f.items } outer ls := by
  induction k generalizing f outer ls with
  | done => rfl
  | letter c k ih =>
    rw [lexemes, List.cons_append, Pattern.readIn, ih]
    simp [Pattern.Frame.push, items]
  | optional inner k ihi ihk =>
    have hinner : (⟨none, [], inner.items.reverse ++ []⟩ : Pattern.Frame).pattern =
        .sequence inner.items := by
      simp [Pattern.Frame.pattern, Pattern.Frame.body, Pattern.Frame.branch_eq]
    rw [lexemes, List.cons_append, Pattern.readIn, List.append_assoc, ihi, List.cons_append,
      Pattern.readIn, List.cons_append, Pattern.readIn, Pattern.Frame.opened, hinner,
      maybe?_push_sequence, Option.bind_some, ihk]
    simp [Pattern.Frame.push, items]

end Keyword

namespace Pattern

/-- A head in the first group before a body in the second one. -/
def token (head : Pattern) : Pattern := sequence [group 1 head, group 2 (sequence [others ','])]

def keywordHead (k : Keyword) : Pattern := sequence (k.items ++ [char ':'])

/-- What stands before the body in the pattern of an opening. -/
def head (o : Opening) : Pattern :=
  match o.symbol with
  | none => keywordHead o.keyword
  | some c => either (sequence [char c]) (keywordHead o.keyword)

section Read

variable {k : Keyword}

theorem head?_escaped (c : Char) (s : Text) : (escaped [c] ++ s).head? ≠ some '?' := by
  have hspecial : '?' ∈ Keyword.patternSpecial := by decide
  rw [escaped, List.flatMap_singleton]
  split
  · simp
  · rename_i h
    simpa using fun hc : c = '?' => h (by rw [hc, List.contains_iff_mem]; exact hspecial)

theorem head?_pattern {k : Keyword} (hk : k.Plain) {s : Text} (hs : s.head? ≠ some '?') :
    (Keyword.pattern k.toText ++ s).head? ≠ some '?' := by
  cases k with
  | done => exact hs
  | letter c k =>
    obtain ⟨⟨hopen, hclose⟩, -⟩ := Keyword.plain_letter.1 hk
    have h := head?_escaped c (Keyword.pattern k.toText ++ s)
    simpa [Keyword.toText, Keyword.pattern, escaped, hopen, hclose] using h
  | optional inner k => simp [Keyword.toText, Keyword.pattern]

theorem ofText?_capture {s : Text} (h : s.head? ≠ some '?') :
    Lexeme.ofText? ('(' :: s) = (Lexeme.ofText? s).map (.capture :: ·) := by
  rw [Lexeme.ofText?]
  rintro r rfl
  exact h rfl

/-- The lexemes from the colon on. -/
def tail : List Lexeme := [.char ':', .close, .capture, .others ',', .close]

theorem ofText?_tail : Lexeme.ofText? ":)([^,]+)".toList = some tail := by
  decide

theorem readIn_tail (k : Keyword) (branches : List Pattern) :
    readIn 1 ⟨some 1, branches, k.items.reverse⟩ [.opened none] tail =
      some (token (branches.foldl (fun q p => either p q) (keywordHead k))) := by
  simp only [tail, readIn, Frame.push, Frame.pattern, Frame.opened, Frame.body, Frame.branch_eq, token,
    keywordHead, List.reverse_cons, List.reverse_reverse, List.foldl_nil, List.isEmpty_nil,
    if_true, List.reverse_nil, List.nil_append, List.singleton_append, Nat.reduceAdd]

theorem ofText?_label {l : Label} {o : Opening} (hk : o.keyword.Plain)
    (hkeyword : l.keyword = some o.keyword.toText) (hsymbol : l.symbol = o.symbol.map ([·])) :
    ofText? l.patternText = some (token (head o)) := by
  -- The text from the keyword on, read behind the branches before it.
  have hrest : Lexeme.ofText? (Keyword.pattern o.keyword.toText ++ ":)([^,]+)".toList) =
      some (o.keyword.lexemes ++ tail) := by
    rw [Keyword.lexemes_pattern hk, ofText?_tail]
    rfl
  have hread : ∀ branches, readIn 1 ⟨some 1, branches, []⟩ [.opened none]
      (o.keyword.lexemes ++ tail) =
        some (token (branches.foldl (fun q p => either p q) (keywordHead o.keyword))) := by
    intro branches
    rw [Keyword.readIn_lexemes, List.append_nil, readIn_tail]
  have hhead : (Keyword.pattern o.keyword.toText ++ ":)([^,]+)".toList).head? ≠ some '?' :=
    head?_pattern hk (by decide)
  rw [ofText?, Label.patternText, hkeyword, hsymbol, head]
  cases o.symbol with
  | none =>
    simp only [Option.map_none, Option.elim_none, Option.getD_some, List.cons_append, List.nil_append]
    rw [ofText?_capture hhead, hrest]
    exact hread []
  | some c =>
    simp only [Option.map_some, Option.elim_some, Option.getD_some, List.cons_append,
      List.append_assoc, List.nil_append]
    rw [ofText?_capture (head?_escaped c _), Lexeme.ofText?_escaped, Lexeme.ofText?, hrest]
    exact hread [sequence [char c]]

end Read

end Pattern

end Rewards
