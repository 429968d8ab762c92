import Rewards.Proofs.Pattern

/-!
The spellings of an opening. A kind takes the same body from behind its symbol and from behind any
spelling of its keyword, unless the symbol starts that spelling: the symbol is tried first. Of the
characters of keywords only `_`, `.` and `-` may be symbols.
-/

namespace Rewards

open Text

theorem Text.isAlphanumeric_of_isAlphanum {c : Char} (h : c.isAlphanum = true) :
    isAlphanumeric c = true := by
  have hascii : alphanumericRanges.take 3 = [(0x30, 0x39), (0x41, 0x5a), (0x61, 0x7a)] := rfl
  have hin : ∀ r ∈ alphanumericRanges.take 3, r.1 ≤ c.toNat ∧ c.toNat ≤ r.2 →
      isAlphanumeric c = true := by
    intro r hr hc
    rw [isAlphanumeric, inRanges, List.any_eq_true]
    exact ⟨r, List.mem_of_mem_take hr, by simpa using hc⟩
  rw [hascii] at hin
  have hcases : (c.isUpper || c.isLower || c.isDigit) = true := h
  rw [Bool.or_eq_true, Bool.or_eq_true] at hcases
  obtain (hu | hl) | hd := hcases
  · have hv : c.val ≥ 65 ∧ c.val ≤ 90 := of_decide_eq_true hu
    exact hin (0x41, 0x5a) (by decide) (by simpa [UInt32.le_iff_toNat_le] using hv)
  · have hv : (c.val ≥ 97 && c.val ≤ 122) = true := hl
    exact hin (0x61, 0x7a) (by decide) (by simpa [UInt32.le_iff_toNat_le] using hv)
  · have hv : (c.val ≥ 48 && c.val ≤ 57) = true := hd
    exact hin (0x30, 0x39) (by decide) (by simpa [UInt32.le_iff_toNat_le] using hv)

namespace Label

variable {l : Label} {o : Opening}

theorem symbolClass?_of_opening (h : l.flaw? = none) (ho : l.opening = .ok o) {c : Char}
    (hc : o.symbol = some c) : symbolClass? c = none := by
  obtain ⟨o', ho', -, -, -, hsym⟩ := exists_opening h
  obtain rfl : o = o' := Except.ok.inj (ho.symm.trans ho')
  have hs := (Option.or_eq_none_iff.1 h).2
  rw [hsym, hc] at hs
  exact Option.map_eq_none_iff.1 hs

theorem isKeywordChar_of_opening (h : l.flaw? = none) (ho : l.opening = .ok o) {k : Text}
    (hk : k ∈ o.keyword.spellings) : ∀ c ∈ k, isKeywordChar c = true ∨ c = '\n' := by
  obtain ⟨o', ho', hkey, -⟩ := exists_opening h
  obtain rfl : o = o' := Except.ok.inj (ho.symm.trans ho')
  have hflaw := (Option.or_eq_none_iff.1 h).1
  rw [hkey] at hflaw
  intro c hc
  exact isKeywordChar_of_mem_letters hflaw c (Keyword.mem_letters_of_mem_spellings hk hc)

/-- Of the characters of keywords, letters and digits and parentheses cannot be symbols. -/
theorem mem_of_symbolClass? {c : Char} (hs : symbolClass? c = none)
    (hk : isKeywordChar c = true ∨ c = '\n') : c ∈ "_.-".toList := by
  obtain ⟨halnum, hblank, -, hbracket, -⟩ := symbolClass?_eq_none_iff.1 hs
  have halpha : c.isAlphanum = false := by
    rw [Bool.eq_false_iff]
    intro ha
    rw [isAlphanumeric_of_isAlphanum ha] at halnum
    cases halnum
  have hopen : c ≠ '(' := by
    rintro rfl
    exact hbracket (by decide)
  have hclose : c ≠ ')' := by
    rintro rfl
    exact hbracket (by decide)
  have hend : c ≠ '\n' := by
    rintro rfl
    exact absurd hblank (by decide)
  rw [or_iff_left hend] at hk
  simp only [isKeywordChar, halpha, Bool.or_eq_true, decide_eq_true_eq, Bool.false_eq_true,
    hopen, hclose, false_or, or_false] at hk
  obtain (rfl | rfl) | rfl := hk <;> decide

end Label

namespace Opening

variable {o : Opening} {b : Text}

theorem strip_symbol {c : Char} (hs : o.symbol = some c) (hb : isBody b = true) :
    o.strip (c :: b) = b := by
  rw [strip, body?_symbol hs hb, Option.getD_some]

theorem strip_spelling {k : Text} (hk : k ∈ o.keyword.spellings) (hcolon : ':' ∉ k)
    (hsym : o.symbol ≠ some ':') (hs : ∀ c, o.symbol = some c → k.head? ≠ some c)
    (hb : isBody b = true) : o.strip (k ++ ':' :: b) = b := by
  have hspelling : o.keyword.isSpelling k = true := Keyword.isSpelling_iff.2 hk
  cases k with
  | nil =>
    have hafter : o.afterKeyword? (':' :: b) = some b :=
      afterKeyword?_eq_some_iff.2 ⟨[], rfl, hcolon, hspelling, hb⟩
    rw [List.nil_append, strip, body?_of_cut hsym, hafter, Option.getD_some]
  | cons c k =>
    have hc : o.symbol ≠ some c := fun h => hs c h rfl
    rw [strip, body?_keyword hc hcolon hb, if_pos hspelling, Option.getD_some]

/-- The symbol takes a spelling that it starts for a part of the body. -/
theorem strip_swallowed {c : Char} {k : Text} (hs : o.symbol = some c) (hcomma : ',' ∉ k)
    (hb : isBody b = true) : o.strip (c :: k ++ ':' :: b) = k ++ ':' :: b :=
  strip_symbol hs ((isBody_append_colon hb).2 hcomma)

end Opening

/-- The pattern of a label without a flaw strips the tokens that its opening claims. -/
theorem Label.exists_compiled {l : Label} (h : l.flaw? = none) :
    ∃ o p, l.opening = .ok o ∧ l.compiled = .ok (some p) ∧ l.symbol = o.symbol.map ([·]) ∧
      l.keyword = some o.keyword.toText ∧ o.keyword.Plain ∧ ∀ t, p.strip t = o.strip t := by
  obtain ⟨o, ho, hkey, hplain, hcolon, hsym⟩ := Label.exists_opening h
  refine ⟨o, _, ho, ?_, hsym, hkey, hplain, (Pattern.finds_head hcolon).strip⟩
  rw [Label.compiled, h, Pattern.ofText?_label hplain hkey hsym]

/-- Behind the symbol of a label without a flaw, and behind every spelling of its keyword that does
not start with the symbol, the pattern finds the body. Behind any other spelling it finds the body
with the rest of the spelling in front, and the symbol is one of `_`, `.` and `-`. -/
theorem spellings_interchangeable (l : Label) (h : l.flaw? = none) :
    ∃ o p, l.opening = .ok o ∧ l.compiled = .ok (some p) ∧ l.symbol = o.symbol.map ([·]) ∧
      l.keyword = some o.keyword.toText ∧ o.keyword.Plain ∧
      ∀ b, b ≠ [] → ',' ∉ b →
        (∀ c, o.symbol = some c → p.strip (c :: b) = b) ∧
        ∀ k ∈ o.keyword.spellings,
          ((∀ c, o.symbol = some c → k.head? ≠ some c) → p.strip (k ++ ':' :: b) = b) ∧
          ∀ c k', o.symbol = some c → k = c :: k' →
            p.strip (k ++ ':' :: b) = k' ++ ':' :: b ∧ c ∈ "_.-".toList := by
  obtain ⟨o, p, ho, hp, hsym, hkey, hplain, hstrip⟩ := Label.exists_compiled h
  refine ⟨o, p, ho, hp, hsym, hkey, hplain, fun b hne hc => ?_⟩
  have hb : Opening.isBody b = true := Opening.isBody_iff.2 ⟨hne, hc⟩
  refine ⟨fun c hs => ?_, fun k hk => ?_⟩
  · rw [hstrip, Opening.strip_symbol hs hb]
  · have hchars := Label.isKeywordChar_of_opening h ho hk
    have hnot : ∀ d ∈ ":,".toList, d ∉ k := by
      intro d hd hmem
      have hall : ∀ d ∈ ":,".toList, ¬(Label.isKeywordChar d = true ∨ d = '\n') := by decide
      exact hall d hd (hchars d hmem)
    have hsym : o.symbol ≠ some ':' := by
      intro hs
      have hclass := Label.symbolClass?_of_opening h ho hs
      exact (Label.symbolClass?_eq_none_iff.1 hclass).2.2.2.2.2 (by decide)
    refine ⟨fun hs => ?_, ?_⟩
    · rw [hstrip, Opening.strip_spelling hk (hnot ':' (by decide)) hsym hs hb]
    · rintro c k' hs rfl
      have hcomma : ',' ∉ k' := fun hm => hnot ',' (by decide) (List.mem_cons_of_mem c hm)
      rw [hstrip, Opening.strip_swallowed hs hcomma hb]
      exact ⟨rfl, Label.mem_of_symbolClass? (Label.symbolClass?_of_opening h ho hs)
        (hchars c List.mem_cons_self)⟩

/-- The symbol starts `-a` and `-ab` of the four spellings, and leaves `a` and `ab` alone. -/
theorem hyphened_spellings :
    let l : Label := ⟨some "(-)a(b)".toList, some ['-']⟩
    l.flaw? = none ∧ ∃ p, l.compiled = .ok (some p) ∧ p.strip "-5" = "5".toList ∧
      p.strip "ab:5" = "5".toList ∧ p.strip "-ab:5" = "ab:5".toList := by
  intro l
  have hf : l.flaw? = none := by decide +kernel
  obtain ⟨o, p, ho, hp, -, -, -, hall⟩ := spellings_interchangeable l hf
  obtain ⟨hsym, hkey⟩ := hall "5" (by decide) (by decide)
  rw [Label.opening, hf] at ho
  cases ho
  refine ⟨hf, p, hp, hsym '-' rfl, (hkey "ab" (by decide)).1 ?_, ?_⟩
  · intro c hc
    cases hc
    decide
  · exact ((hkey "-ab" (by decide)).2 '-' "ab" rfl rfl).1

/-- The symbol takes the keyword for a body. -/
theorem symbol_swallows_keyword :
    let l : Label := ⟨some "-x".toList, some ['-']⟩
    l.flaw? = none ∧ (∃ k, Keyword.ofText? "-x" = some k ∧ "-x".toList ∈ k.spellings) ∧
      ∃ p, l.compiled = .ok (some p) ∧ p.strip "-b" = "b".toList ∧
        p.strip "-x:b" = "x:b".toList ∧ "x:b".toList ≠ "b".toList := by
  intro l
  have hf : l.flaw? = none := by decide +kernel
  obtain ⟨o, p, ho, hp, -, -, -, hstrip⟩ := Label.exists_compiled hf
  rw [Label.opening, hf] at ho
  cases ho
  refine ⟨hf, ⟨.letter '-' (.letter 'x' .done), by decide, by decide⟩, p, hp, ?_, ?_, by decide⟩
  · rw [hstrip]
    exact Opening.strip_symbol rfl rfl
  · rw [hstrip]
    exact Opening.strip_symbol rfl rfl

end Rewards
