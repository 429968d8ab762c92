import Rewards.Proofs.Label
import Rewards.Proofs.Pattern.Matching

/-!
The pattern of a label without a flaw matches the documented openings: the symbol, or a spelling of
the keyword and a colon, before a body that is not empty and has no comma.
-/

namespace Rewards

open Text

namespace Opening

/-- A token that has the body `b` behind the symbol. -/
def InSymbolForm (o : Opening) (t b : Text) : Prop :=
  ∃ c, o.symbol = some c ∧ t = c :: b ∧ b ≠ [] ∧ ',' ∉ b

/-- A token that has the body `b` behind a spelling of the keyword and a colon. -/
def InKeywordForm (o : Opening) (t b : Text) : Prop :=
  ∃ k ∈ o.keyword.spellings, t = k ++ ':' :: b ∧ b ≠ [] ∧ ',' ∉ b

variable {o : Opening} {t b : Text}

theorem afterSymbol?_iff : o.afterSymbol? t = some b ↔ o.InSymbolForm t b := by
  rw [afterSymbol?_eq_some_iff]
  constructor
  · rintro ⟨c, ht, hc, hb⟩
    exact ⟨c, hc, ht, isBody_iff.1 hb⟩
  · rintro ⟨c, hc, ht, hb⟩
    exact ⟨c, ht, hc, isBody_iff.2 hb⟩

theorem colon_not_mem_spelling (h : ':' ∉ o.keyword.letters) {k : Text}
    (hk : k ∈ o.keyword.spellings) : ':' ∉ k :=
  fun hc => h (Keyword.mem_letters_of_mem_spellings hk hc)

theorem afterKeyword?_iff (h : ':' ∉ o.keyword.letters) :
    o.afterKeyword? t = some b ↔ o.InKeywordForm t b := by
  rw [afterKeyword?_eq_some_iff]
  constructor
  · rintro ⟨k, ht, -, hk, hb⟩
    exact ⟨k, Keyword.isSpelling_iff.1 hk, ht, isBody_iff.1 hb⟩
  · rintro ⟨k, hk, ht, hb⟩
    exact ⟨k, ht, colon_not_mem_spelling h hk, Keyword.isSpelling_iff.2 hk, isBody_iff.2 hb⟩

theorem strip_of_inSymbolForm (hb : o.InSymbolForm t b) : o.strip t = b := by
  rw [strip, body?, afterSymbol?_iff.2 hb]
  rfl

section Unsigned

variable (hno : ∀ b, ¬o.InSymbolForm t b)
include hno

theorem body?_of_not_inSymbolForm : o.body? t = o.afterKeyword? t := by
  have hnone : o.afterSymbol? t = none :=
    Option.eq_none_iff_forall_ne_some.2 fun b hb => hno b (afterSymbol?_iff.1 hb)
  rw [body?, hnone, Option.none_or]

theorem strip_of_inKeywordForm (h : ':' ∉ o.keyword.letters) (hb : o.InKeywordForm t b) :
    o.strip t = b := by
  rw [strip, body?_of_not_inSymbolForm hno, (afterKeyword?_iff h).2 hb]
  rfl

theorem strip_of_not_inKeywordForm (h : ':' ∉ o.keyword.letters)
    (hno' : ∀ b, ¬o.InKeywordForm t b) : o.strip t = t := by
  have hnone : o.afterKeyword? t = none :=
    Option.eq_none_iff_forall_ne_some.2 fun b hb => hno' b ((afterKeyword?_iff h).1 hb)
  rw [strip, body?_of_not_inSymbolForm hno, hnone]
  rfl

end Unsigned

theorem cut_of_inKeywordForm (h : ':' ∉ o.keyword.letters) (hb : o.InKeywordForm t b) :
    (cut ':' t).2 = some b := by
  obtain ⟨k, hk, rfl, -⟩ := hb
  rw [cut_append (colon_not_mem_spelling h hk)]

end Opening

/-- The pattern of a label without a flaw is well formed and matches exactly the tokens with a body
behind the symbol, or behind a spelling of the keyword and a colon. What it leaves of a token is the
text behind the symbol if there is one, or else behind the first colon; and all of a token that does
not match. The registry claims and strips tokens in just this way. There is one way to read the
keyword, so it has one set of spellings. -/
theorem pattern_matches_openings (l : Label) (h : l.flaw? = none) :
    ∃ o p, l.opening = .ok o ∧ l.compiled = .ok (some p) ∧ l.symbol = o.symbol.map ([·]) ∧
      l.keyword = some o.keyword.toText ∧ o.keyword.Plain ∧
      (∀ k : Keyword, k.Plain → l.keyword = some k.toText → k = o.keyword) ∧
      ∀ t,
        ((p.captures? t).isSome ↔ (∃ b, o.InSymbolForm t b) ∨ ∃ b, o.InKeywordForm t b) ∧
        (∀ b, o.InSymbolForm t b → p.strip t = b) ∧
        ((∀ b, ¬o.InSymbolForm t b) → ∀ b, o.InKeywordForm t b →
          (cut ':' t).2 = some b ∧ p.strip t = b) ∧
        ((∀ b, ¬o.InSymbolForm t b) → (∀ b, ¬o.InKeywordForm t b) → p.strip t = t) ∧
        o.claims t = (p.captures? t).isSome ∧ o.strip t = p.strip t := by
  obtain ⟨o, ho, hkey, hplain, hcolon, hsym⟩ := Label.exists_opening h
  have hread := Pattern.ofText?_label hplain hkey hsym
  have hfinds := Pattern.finds_head hcolon
  refine ⟨o, _, ho, by rw [Label.compiled, h, hread], hsym, hkey, hplain, fun k hk hl => ?_, fun t => ?_⟩
  · rw [hkey, Option.some_inj] at hl
    have hk' := Keyword.ofText?_toText hk
    rw [← hl, Keyword.ofText?_toText hplain] at hk'
    exact (Option.some_inj.1 hk').symm
  · rw [hfinds.strip t, hfinds.isSome t]
    change (o.claims t = true ↔ _) ∧ _
    refine ⟨?_, fun b hb => Opening.strip_of_inSymbolForm hb, fun hno b hb => ?_, fun hno hno' => ?_,
      rfl, rfl⟩
    · simp only [Opening.claims_iff, Opening.afterSymbol?_iff, Opening.afterKeyword?_iff hcolon]
    · exact ⟨Opening.cut_of_inKeywordForm hcolon hb, Opening.strip_of_inKeywordForm hno hcolon hb⟩
    · exact Opening.strip_of_not_inKeywordForm hno hcolon hno'

/-- A keyword with a part inside a part, and a symbol that means something in patterns. -/
theorem permission_pattern : ∃ p,
    Label.compiled ⟨some "p(erm(ission))".toList, some ['*']⟩ = .ok (some p) ∧
      (p.captures? "perm:a.b").isSome ∧ p.strip "permission:a:b" = "a:b".toList ∧
        p.strip "*a.b" = "a.b".toList ∧ p.strip "pe:a.b" = "pe:a.b".toList := by
  have hf : Label.flaw? ⟨some "p(erm(ission))".toList, some ['*']⟩ = none := by decide +kernel
  obtain ⟨o, p, ho, hp, -, -, -, -, h⟩ := pattern_matches_openings _ hf
  have hstrip : ∀ t, o.strip t = p.strip t := fun t => (h t).2.2.2.2.2
  rw [Label.opening, hf] at ho
  cases ho
  refine ⟨p, hp, ?_, ?_, ?_, ?_⟩
  · rw [← (h _).2.2.2.2.1]
    decide +kernel
  all_goals
    rw [← hstrip]
    decide +kernel

end Rewards
