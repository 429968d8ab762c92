import Mathlib.Data.List.Forall2
import Rewards.Proofs.Catalog
import Rewards.Proofs.Decimal.Notation

/-!
The spellings of a key of the catalog. Its number may have zeros in front. Its name may have letters
of either case, and any of some separators for each underscore; every such name is compared in the
form that the catalog has.
-/

namespace Rewards.Catalog

open Text Decimal

/-- The digits of `n` behind any zeros, few enough to be read. -/
def SpellsNumber (n : ℕ) (t : Text) : Prop :=
  (∃ k, t = zeros k ++ numeral n) ∧ t.length ≤ maxDigits

/-- A separator for an underscore, or a letter in either case. -/
def SpellsChar (seps : Text) (c d : Char) : Prop :=
  c = '_' ∧ d ∈ seps ∨ c ≠ '_' ∧ (d = c ∨ d = c.toLower)

def SpellsName (seps name t : Text) : Prop := List.Forall₂ (SpellsChar seps) name t

/-- A key by its number or by its name. -/
def SpellsKey (seps : Text) (k : Key) (t : Text) : Prop :=
  SpellsNumber k.id t ∨ SpellsName seps k.name t

/-- All that is read as an underscore in a name. -/
def separators : Text := "_- ".toList

theorem materials_ascending : (materials.map (·.id)).IsChain (· < ·) := by decide +kernel

theorem materials_bare (k : Key) (h : k ∈ materials) :
    IsBare k.name ∧ numbered? materials k.id = some k := by
  have hids : (materials.map (·.id)).Nodup :=
    (List.isChain_iff_pairwise.1 materials_ascending).imp Nat.ne_of_lt
  exact ⟨(materials_names.1 k h).2, find?_of_nodup_map hids h⟩

theorem enchantments_bare : ∀ k ∈ enchantments, IsBare k.name := by decide +kernel

theorem dyes_bare : ∀ k ∈ dyes, IsBare k.name ∧ named? dyes k.name = some k := by decide +kernel

section Number

variable {n : ℕ} {t : Text} (h : SpellsNumber n t)

include h

theorem SpellsNumber.digits : ∀ c ∈ t, isAsciiDigit c := by
  obtain ⟨⟨k, rfl⟩, -⟩ := h
  intro c hc
  obtain hc | hc := List.mem_append.1 hc
  · rw [List.eq_of_mem_replicate hc]
    decide
  · exact isAsciiDigit_of_mem_numeral hc

theorem SpellsNumber.ne_nil : t ≠ [] := by
  obtain ⟨⟨k, rfl⟩, -⟩ := h
  simp [numeral_ne_nil]

theorem SpellsNumber.isNumeral : isNumeral t = true := by
  rw [Catalog.isNumeral, Bool.and_eq_true, Bool.not_eq_true', List.isEmpty_eq_false_iff,
    List.all_eq_true]
  exact ⟨h.ne_nil, h.digits⟩

theorem SpellsNumber.natural : natural t = .ok n := by
  obtain ⟨⟨k, rfl⟩, hl⟩ := h
  rw [Text.natural, if_neg (Nat.not_lt.2 hl), number_zeros_append, number_numeral]

end Number

def letters : Text := "ABCDEFGHIJKLMNOPQRSTUVWXYZabcdefghijklmnopqrstuvwxyz".toList

section Name

variable {seps : Text}

theorem SpellsChar.mem {c d : Char} (hc : c ∈ nameChars) (h : SpellsChar seps c d) :
    d ∈ seps ∧ c = '_' ∨ d ∈ letters := by
  have hall : ∀ c ∈ nameChars, c ≠ '_' → c ∈ letters ∧ c.toLower ∈ letters := by decide
  obtain ⟨hu, hd⟩ | ⟨hu, rfl | rfl⟩ := h
  · exact .inl ⟨hd, hu⟩
  · exact .inr (hall d hc hu).1
  · exact .inr (hall c hc hu).2

theorem isBlank_of_mem_letters : ∀ c ∈ letters, isBlank c = false := by decide +kernel

theorem isAsciiDigit_of_mem : ∀ c ∈ separators ++ letters, isAsciiDigit c = false := by decide

/-- Names are compared in upper case with one separator. -/
theorem SpellsChar.upper (hs : seps ⊆ separators) {c d : Char} (hc : c ∈ nameChars)
    (h : SpellsChar seps c d) :
    ((upperChar d).map fun c => if c = ' ' ∨ c = '-' then '_' else c) = [c] := by
  have hsep : ∀ d ∈ separators,
      ((upperChar d).map fun c => if c = ' ' ∨ c = '-' then '_' else c) = ['_'] := by
    decide +kernel
  have hletter : ∀ c ∈ nameChars, c ≠ '_' → ∀ d ∈ [c, c.toLower],
      ((upperChar d).map fun c => if c = ' ' ∨ c = '-' then '_' else c) = [c] := by
    decide +kernel
  obtain ⟨rfl, hd⟩ | ⟨hu, hd⟩ := h
  · exact hsep d (hs hd)
  · exact hletter c hc hu d (by simpa using hd)

variable {n t : Text} (hn : IsName n) (h : SpellsName seps n t)

theorem mem_nameChars_of_isName (hn : IsName n) : ∀ c ∈ n, c ∈ nameChars :=
  fun c hc => mem_nameChars (hn.2 c hc)

include hn h

theorem SpellsName.mem : ∀ d ∈ t, d ∈ seps ++ letters := by
  replace hn := mem_nameChars_of_isName hn
  induction h with
  | nil => simp
  | @cons c d n t hcd h ih =>
    obtain ⟨hc, hn⟩ := List.forall_mem_cons.1 hn
    exact List.forall_mem_cons.2 ⟨List.mem_append.2 ((hcd.mem hc).imp_left And.left), ih hn⟩

theorem SpellsName.ne_nil : t ≠ [] := by
  rintro rfl
  exact hn.1 (List.forall₂_nil_right_iff.1 h)

theorem SpellsName.trimmed (hb : IsBare n) : Trimmed t := by
  have hmem := mem_nameChars_of_isName hn
  -- The first character of a name, or of a reversed one, is a letter.
  have hhead : ∀ {n t : Text}, List.Forall₂ (SpellsChar seps) n t → (∀ c ∈ n, c ∈ nameChars) →
      (∀ c ∈ n.head?, c ≠ '_') → ∀ d ∈ t.head?, isBlank d = false := by
    intro n t h hn hu
    cases h with
    | nil => simp
    | @cons c d n t hcd h =>
      rintro _ ⟨⟩
      obtain ⟨-, hc⟩ | hd := hcd.mem (hn c List.mem_cons_self)
      · exact absurd hc (hu c rfl)
      · exact isBlank_of_mem_letters d hd
  refine ⟨hhead h hmem hb.1, ?_⟩
  rw [← List.head?_reverse]
  refine hhead (List.forall₂_reverse_iff.2 h) (by simpa using hmem) ?_
  rw [List.head?_reverse]
  exact hb.2

variable (hs : seps ⊆ separators)

include hs

theorem SpellsName.normalized (hb : IsBare n) : normalized t = n := by
  rw [Catalog.normalized, trim_of_trimmed (h.trimmed hn hb)]
  replace hn := mem_nameChars_of_isName hn
  clear hb
  induction h with
  | nil => rfl
  | @cons c d n t hcd h ih =>
    obtain ⟨hc, hn⟩ := List.forall_mem_cons.1 hn
    rw [upper, List.flatMap_cons, List.map_append, hcd.upper hs hc]
    exact congrArg (c :: ·) (ih hn)

theorem SpellsName.isNumeral : isNumeral t = false := by
  obtain ⟨d, u, rfl⟩ := List.exists_cons_of_ne_nil (h.ne_nil hn)
  have hd := h.mem hn d List.mem_cons_self
  have := isAsciiDigit_of_mem d (List.mem_append.2 ((List.mem_append.1 hd).imp_left (hs ·)))
  simp [Catalog.isNumeral, this]

end Name

/-- A key is found by each of its spellings. -/
theorem SpellsKey.find? {seps : Text} (hs : seps ⊆ separators) {table : List Key} {k : Key}
    (hname : IsName k.name ∧ IsBare k.name) (hnamed : named? table k.name = some k)
    (hnumbered : numbered? table k.id = some k) {t : Text} (h : SpellsKey seps k t) :
    find? table t = .ok (some k) := by
  obtain h | h := h
  · rw [Catalog.find?, if_pos h.isNumeral, h.natural]
    exact congrArg Except.ok hnumbered
  · rw [Catalog.find?, h.isNumeral hname.1 hs, h.normalized hname.1 hs hname.2, hnamed]
    rfl

theorem material?_of_spells {k : Key} (hk : k ∈ materials) {t : Text}
    (h : SpellsKey ['_', '-'] k t) : material? t = .ok (some k) := by
  obtain ⟨hn, hnamed⟩ := materials_named k hk
  obtain ⟨hb, hnumbered⟩ := materials_bare k hk
  exact h.find? (by decide) ⟨hn, hb⟩ hnamed hnumbered

theorem enchantment?_of_spells {k : Key} (hk : k ∈ enchantments) {t : Text}
    (h : SpellsKey separators k t) : enchantment? t = .ok (some k) := by
  obtain ⟨hn, hnamed, hnumbered, -⟩ := enchantments_named k hk
  exact h.find? (List.Subset.refl _) ⟨hn, enchantments_bare k hk⟩ hnamed hnumbered

theorem dye?_of_spells {k : Key} (hk : k ∈ dyes) {t : Text} (h : SpellsName ['_', '-'] k.name t) :
    isNumeral t = false ∧ dye? t = some k := by
  obtain ⟨hb, hnamed⟩ := dyes_bare k hk
  have hn := dyes_named k hk
  refine ⟨h.isNumeral hn (by decide), ?_⟩
  rw [dye?, h.normalized hn (by decide) hb, hnamed]

/-- The characters of keys and numbers. -/
def IsSpelled (seps t : Text) : Prop := ∀ c ∈ t, isAsciiDigit c ∨ c ∈ seps ++ letters

theorem IsSpelled.not_mem {seps t : Text} (h : IsSpelled seps t) {m : Char}
    (hd : isAsciiDigit m = false) (hm : m ∉ seps ++ letters) : m ∉ t := by
  intro hc
  obtain h | h := h m hc
  · simp [h] at hd
  · exact hm h

theorem IsSpelled.isBlank {seps t : Text} (h : IsSpelled seps t)
    (hs : ∀ c ∈ seps, isBlank c = false) : ∀ c ∈ t, isBlank c = false := by
  intro c hc
  obtain hd | hm := h c hc
  · exact isBlank_of_isAsciiDigit hd
  · exact (List.mem_append.1 hm).elim (hs c) (isBlank_of_mem_letters c)

theorem SpellsNumber.isSpelled {n : ℕ} {t : Text} (h : SpellsNumber n t) (seps : Text) :
    IsSpelled seps t := fun c hc => .inl (h.digits c hc)

section Characters

variable {seps : Text} {k : Key} (hn : IsName k.name) {t : Text} (h : SpellsKey seps k t)

include hn h

theorem SpellsKey.isSpelled : IsSpelled seps t := by
  obtain h | h := h
  · exact h.isSpelled seps
  · exact fun c hc => .inr (h.mem hn c hc)

theorem SpellsKey.ne_nil : t ≠ [] := by
  obtain h | h := h
  · exact h.ne_nil
  · exact h.ne_nil hn

/-- The first and the last character of a spelled key are not blank. -/
theorem SpellsKey.trimmed (hb : IsBare k.name) : Trimmed t := by
  obtain h | h := h
  · exact trimmed_of_forall fun c hc => isBlank_of_isAsciiDigit (h.digits c hc)
  · exact h.trimmed hn hb

end Characters

end Rewards.Catalog
