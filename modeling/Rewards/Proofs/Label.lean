import Rewards.Proofs.Keyword
import Rewards.Proofs.Opening

/-!
Labels without a flaw. Their openings can be told from a label in one way, and start a token with
neither a comma nor a parenthesis.
-/

namespace Rewards.Label

open Text Token

variable {l : Label}

theorem mem_dropLineEnd {c : Char} {s : Text} (h : c ∈ s) (hc : c ≠ '\n') : c ∈ dropLineEnd s := by
  rw [dropLineEnd]
  split
  · rename_i hlast
    obtain ⟨r, rfl⟩ := List.getLast?_eq_some_iff.1 hlast
    simpa [hc] using h
  · exact h

theorem isKeywordChar_of_mem_letters {k : Keyword} (h : keywordFlaw? (some k.toText) = none) :
    ∀ c ∈ k.letters, isKeywordChar c = true ∨ c = '\n' := by
  intro c hc
  rw [keywordFlaw?, Option.getD_some] at h
  split_ifs at h with hempty hforeign
  rw [Bool.or_eq_true, not_or, Bool.not_eq_true', Bool.not_eq_false, List.all_eq_true] at hforeign
  obtain rfl | hn := eq_or_ne c '\n'
  · exact .inr rfl
  · exact .inl (hforeign.2 c (mem_dropLineEnd (Keyword.mem_toText_of_mem_letters hc) hn))

/-- What a label without a flaw has for a keyword and a symbol. -/
theorem exists_opening (h : l.flaw? = none) : ∃ o : Opening, l.opening = .ok o ∧
    l.keyword = some o.keyword.toText ∧ o.keyword.Plain ∧ ':' ∉ o.keyword.letters ∧
      l.symbol = o.symbol.map ([·]) := by
  obtain ⟨hk, hs⟩ := Option.or_eq_none_iff.1 h
  obtain ⟨k, hkey⟩ : ∃ k, l.keyword = some k := by
    cases hkey : l.keyword with
    | none =>
      rw [hkey] at hk
      cases hk
    | some k => exact ⟨k, rfl⟩
  have hflaw := hk
  rw [hkey, keywordFlaw?, Option.getD_some] at hk
  split_ifs at hk with hempty hforeign
  obtain ⟨e, he⟩ := Keyword.exists_of_unpaired hk
  obtain ⟨rfl, hplain⟩ := Keyword.ofText?_eq_some_iff.1 he
  have hsymbol : l.symbol = (l.symbol.bind List.head?).map ([·]) := by
    match hsym : l.symbol with
    | none => rfl
    | some [] => rw [hsym] at hs; cases hs
    | some [c] => rfl
    | some (c :: d :: s) => rw [hsym] at hs; cases hs
  refine ⟨⟨e, l.symbol.bind List.head?⟩, ?_, hkey, hplain, fun hc => ?_, hsymbol⟩
  · rw [opening, h, hkey, Option.bind_some, he, Option.getD_some]
  · rw [hkey] at hflaw
    obtain hc | hc := isKeywordChar_of_mem_letters hflaw _ hc
    · exact absurd hc (by decide)
    · exact absurd hc (by decide)

theorem symbolClass?_eq_none_iff {c : Char} : symbolClass? c = none ↔
    isAlphanumeric c = false ∧ isBlank c = false ∧ c ∉ "'\"`´".toList ∧
      c ∉ "()[]\x7b\x7d".toList ∧ c ∉ "\\/|".toList ∧ c ∉ ",:;".toList := by
  simp only [symbolClass?, List.contains_iff_mem, ite_eq_iff, reduceCtorEq, and_false, false_or,
    and_true, Bool.not_eq_true]

/-- An opening has neither a comma nor a parenthesis. -/
theorem opens_cases (h : l.flaw? = none) {o : Opening} (ho : l.opening = .ok o) {k : Text}
    (hk : o.Opens k) : k ≠ [] ∧ ',' ∉ k ∧ ∀ c ∈ k, isParen c = false := by
  obtain ⟨o', ho', hkey, hplain, -, hsym⟩ := exists_opening h
  obtain rfl : o = o' := Except.ok.inj (ho.symm.trans ho')
  obtain ⟨hflaw, hs⟩ := Option.or_eq_none_iff.1 h
  cases hk with
  | @symbol c hc =>
    rw [hsym, hc] at hs
    obtain ⟨-, -, -, hbracket, -, hsep⟩ := symbolClass?_eq_none_iff.1 (Option.map_eq_none_iff.1 hs)
    refine ⟨List.cons_ne_nil c [], ?_, List.forall_mem_singleton.2 ?_⟩
    · rw [List.mem_singleton]
      rintro rfl
      exact hsep (by decide)
    · rw [isParen, Bool.or_eq_false_iff, decide_eq_false_iff_not, decide_eq_false_iff_not]
      constructor <;> rintro rfl <;> exact hbracket (by decide)
  | @keyword k hk =>
    rw [hkey] at hflaw
    have hletters : ∀ c ∈ k, c ≠ ',' ∧ isParen c = false := by
      intro c hc
      have hmem := Keyword.mem_letters_of_mem_spellings hk hc
      obtain ⟨hopen, hclose⟩ := hplain c hmem
      refine ⟨?_, by simp [isParen, hopen, hclose]⟩
      rintro rfl
      obtain hc | hc := isKeywordChar_of_mem_letters hflaw _ hmem
      · exact absurd hc (by decide)
      · exact absurd hc (by decide)
    refine ⟨by simp, ?_, List.forall_mem_append.2 ⟨fun c hc => (hletters c hc).2, by decide⟩⟩
    rw [List.mem_append, not_or]
    exact ⟨fun hc => (hletters _ hc).1 rfl, by decide⟩

end Rewards.Label
