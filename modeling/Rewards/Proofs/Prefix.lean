import Rewards.Proofs.Opening

/-!
Bodies behind an opening. The built-in kinds read a body behind any of their openings as they read it
alone, unless it is blank. Then the opening is left without a body to open and is read as one itself; only
the amount knows its symbol alone as an empty body.
-/

namespace Rewards

open Text

namespace Opening

def builtIn : List Opening := [Currency.opening, Permission.opening, Effect.opening]

/-- All that opens a token. -/
def openings (o : Opening) : List Text :=
  o.symbol.toList.map ([·]) ++ o.keyword.spellings.map (· ++ [':'])

theorem mem_openings_iff {o : Opening} {p : Text} : p ∈ o.openings ↔ o.Opens p := by
  rw [openings, List.mem_append, List.mem_map, List.mem_map]
  constructor
  · rintro (⟨c, hc, rfl⟩ | ⟨k, hk, rfl⟩)
    · exact .symbol (by simpa using hc)
    · exact .keyword hk
  · rintro (hc | hk)
    · exact .inl ⟨_, by simpa using hc, rfl⟩
    · exact .inr ⟨_, hk, rfl⟩

section BuiltIn

variable {o : Opening} (ho : o ∈ builtIn) {p : Text} (hp : o.Opens p)

include ho hp

theorem Opens.trimmed : p ≠ [] ∧ Trimmed p := by
  have hall : ∀ o ∈ builtIn, ∀ p ∈ o.openings, p ≠ [] ∧ Trimmed p := by decide
  exact hall o ho p (mem_openings_iff.2 hp)

/-- An opening alone is not stripped. -/
theorem Opens.strip_self : o.strip p = p := by
  have hall : ∀ o ∈ builtIn, ∀ p ∈ o.openings, o.strip p = p := by decide
  exact hall o ho p (mem_openings_iff.2 hp)

theorem Opens.strip_append {b : Text} (hb : isBody b = true) : o.strip (p ++ b) = b := by
  cases hp with
  | @symbol c hc =>
    rw [strip, List.singleton_append, body?_symbol hc hb, Option.getD_some]
  | @keyword k hk =>
    -- No keyword is empty, has a colon or starts with the symbol.
    have hall : ∀ o ∈ builtIn, ∀ k ∈ o.keyword.spellings,
        ':' ∉ k ∧ k ≠ [] ∧ ∀ c ∈ k.head?, o.symbol ≠ some c := by decide
    obtain ⟨hcolon, hne, hsym⟩ := hall o ho k hk
    obtain ⟨c, k, rfl⟩ := List.exists_cons_of_ne_nil hne
    rw [strip, List.append_assoc, List.singleton_append, body?_keyword (hsym c rfl) hcolon hb,
      if_pos (Keyword.isSpelling_iff.2 hk), Option.getD_some]

theorem Opens.trim_blank {b : Text} (hb : trim b = []) : trim (p ++ b) = p := by
  obtain ⟨l, r, hs, hl, hr⟩ := exists_trim b
  rw [hb, List.nil_append] at hs
  have hblank : ∀ c ∈ b, isBlank c := hs ▸ List.forall_mem_append.2 ⟨hl, hr⟩
  rw [trim_append_blank hblank, trim_of_trimmed (hp.trimmed ho).2]

/-- The body behind an opening loses only blanks at its end. -/
theorem Opens.strip_body {b : Text} (hc : ',' ∉ b) (hb : trim b ≠ []) :
    ∃ b', trim b' = trim b ∧ b' ≠ [] ∧ trim (p ++ b) = p ++ b' ∧ o.strip (trim (p ++ b)) = b' := by
  obtain ⟨hne, ht⟩ := hp.trimmed ho
  obtain ⟨l, r, hs, hl, hr⟩ := exists_trim b
  have htrim : trim (p ++ b) = p ++ (l ++ trim b) := by
    have he : p ++ b = (p ++ l ++ trim b) ++ r := by
      conv_lhs => rw [hs]
      simp only [List.append_assoc]
    rw [he, trim_append_blank hr, trim_of_trimmed (ht.append hne (trimmed_trim b) hb l),
      List.append_assoc]
  have hbody : isBody (l ++ trim b) = true := by
    refine isBody_iff.2 ⟨by simp [hb], fun hm => hc ?_⟩
    rw [hs, ← List.append_assoc]
    exact List.mem_append_left r hm
  refine ⟨l ++ trim b, by rw [trim_blank_append hl, trim_trim], by simp [hb], htrim, ?_⟩
  rw [htrim, hp.strip_append ho hbody]

end BuiltIn

end Opening

open Opening

section Reading

variable {p b : Text}

theorem Currency.ofBody_congr {b' : Text} (h : trim b' = trim b) : ofBody b' = ofBody b := by
  simp only [ofBody, h]

theorem Permission.ofBody_congr {b' : Text} (h : trim b' = trim b) : ofBody b' = ofBody b := by
  simp only [ofBody, h]

theorem Effect.ofBody_congr {b' : Text} (h : trim b' = trim b) : ofBody b' = ofBody b := by
  simp only [ofBody, h]

theorem Currency.ofBody_opening (hp : opening.Opens p) (hd : p ≠ ['$']) :
    ofBody p = refuse .currency p := by
  have hall : ∀ p ∈ opening.openings, p ≠ ['$'] →
      p ≠ [] ∧ trim p = p ∧ (Decimal.read? p).isNone = true := by decide
  obtain ⟨hne, ht, hr⟩ := hall p (mem_openings_iff.2 hp) hd
  rw [Option.isNone_iff_eq_none] at hr
  simp only [ofBody, ht, List.isEmpty_iff, hne, if_false, hr]

theorem Effect.ofBody_opening (hp : opening.Opens p) : ofBody p = refuse .effect p := by
  have hall : ∀ p ∈ opening.openings, words (trim p) = [p] ∧ Catalog.isNumeral p = false ∧
      Catalog.named? Catalog.effects (Catalog.normalized p) = none := by decide +kernel
  obtain ⟨hw, hn, hnone⟩ := hall p (mem_openings_iff.2 hp)
  have he : Catalog.effect? p = .ok none := by
    rw [Catalog.effect?, Catalog.find?, hn, hnone]
    rfl
  simp only [ofBody, hw, he]
  rfl

theorem Currency.read_prefixed (hp : opening.Opens p) (hc : ',' ∉ b) :
    read (some (p ++ b)) = if trim b = [] ∧ p ≠ ['$'] then refuse .currency p else ofBody b := by
  have ho : opening ∈ builtIn := by simp [builtIn]
  have hread : read (some (p ++ b)) =
      ofBody (if trim (p ++ b) = ['$'] then [] else opening.strip (trim (p ++ b))) := rfl
  rw [hread]
  by_cases hb : trim b = []
  · rw [hp.trim_blank ho hb, hp.strip_self ho]
    by_cases hd : p = ['$']
    · rw [if_pos hd, if_neg fun h => h.2 hd]
      exact ofBody_congr hb.symm
    · rw [if_neg hd, if_pos ⟨hb, hd⟩, ofBody_opening hp hd]
  · obtain ⟨b', hb', hne, htrim, hstrip⟩ := hp.strip_body ho hc hb
    have hsym : trim (p ++ b) ≠ ['$'] := by
      intro h
      have hlen := congrArg List.length (htrim.symm.trans h)
      have hp0 := List.length_pos_iff.2 (hp.trimmed ho).1
      have hb0 := List.length_pos_iff.2 hne
      simp only [List.length_append, List.length_singleton] at hlen
      omega
    rw [if_neg hsym, hstrip, if_neg fun h => hb h.1, ofBody_congr hb']

theorem Permission.read_prefixed (hp : opening.Opens p) (hc : ',' ∉ b) :
    read (some (p ++ b)) = if trim b = [] then .ok p else ofBody b := by
  have ho : opening ∈ builtIn := by simp [builtIn]
  have hread : read (some (p ++ b)) = ofBody (opening.strip (trim (p ++ b))) := rfl
  rw [hread]
  by_cases hb : trim b = []
  · obtain ⟨hne, ht⟩ := hp.trimmed ho
    rw [hp.trim_blank ho hb, hp.strip_self ho, if_pos hb, ofBody, trim_of_trimmed ht,
      if_neg (by simpa using hne)]
  · obtain ⟨b', hb', -, -, hstrip⟩ := hp.strip_body ho hc hb
    rw [hstrip, if_neg hb, ofBody_congr hb']

theorem Effect.read_prefixed (hp : opening.Opens p) (hc : ',' ∉ b) :
    read (some (p ++ b)) = if trim b = [] then refuse .effect p else ofBody b := by
  have ho : opening ∈ builtIn := by simp [builtIn]
  have hread : read (some (p ++ b)) = ofBody (opening.strip (trim (p ++ b))) := rfl
  rw [hread]
  by_cases hb : trim b = []
  · rw [hp.trim_blank ho hb, hp.strip_self ho, if_pos hb, ofBody_opening hp]
  · obtain ⟨b', hb', -, -, hstrip⟩ := hp.strip_body ho hc hb
    rw [hstrip, if_neg hb, ofBody_congr hb']

theorem ofBody_blank (hb : trim b = []) :
    Currency.ofBody b = .error (.refused (.lack .currency)) ∧
      Permission.ofBody b = .error (.refused (.lack .permission)) ∧
      Effect.ofBody b = .error (.refused (.lack .effect)) := by
  have hnil : trim [] = trim b := hb.symm
  rw [← Currency.ofBody_congr hnil, ← Permission.ofBody_congr hnil, ← Effect.ofBody_congr hnil]
  exact ⟨rfl, rfl, rfl⟩

/-- Behind any of its openings a built-in kind reads a body as it reads the body alone, if that is not
blank. A blank body alone is empty for all three kinds. Behind an opening it leaves the opening to be read
as a body: it is a permission, but no amount and no effect, and only behind the symbol of amounts it
is empty. -/
theorem prefixed_bodies {p b : Text} (hc : ',' ∉ b) :
    (Currency.opening.Opens p → Currency.read (some (p ++ b)) =
      if trim b = [] ∧ p ≠ ['$'] then refuse .currency p else Currency.ofBody b) ∧
    (Permission.opening.Opens p → Permission.read (some (p ++ b)) =
      if trim b = [] then .ok p else Permission.ofBody b) ∧
    (Effect.opening.Opens p → Effect.read (some (p ++ b)) =
      if trim b = [] then refuse .effect p else Effect.ofBody b) ∧
    (trim b = [] → Currency.ofBody b = .error (.refused (.lack .currency)) ∧
      Permission.ofBody b = .error (.refused (.lack .permission)) ∧
      Effect.ofBody b = .error (.refused (.lack .effect))) :=
  ⟨fun hp => Currency.read_prefixed hp hc, fun hp => Permission.read_prefixed hp hc,
    fun hp => Effect.read_prefixed hp hc, ofBody_blank⟩

/-- A keyword and its colon are a permission, though nothing is left behind them. -/
theorem prefix_alone_is_permission :
    ',' ∉ ([] : Text) ∧ Permission.opening.Opens "perm:" ∧
      Permission.read (some ("perm:".toList ++ [])) = .ok "perm:".toList ∧
      Permission.ofBody [] = .error (.refused (.lack .permission)) := by
  have hc : ',' ∉ ([] : Text) := List.not_mem_nil
  have hp : Permission.opening.Opens "perm:" := mem_openings_iff.1 (by decide)
  obtain ⟨-, hperm, -, hblank⟩ := prefixed_bodies (p := "perm:") hc
  exact ⟨hc, hp, hperm hp, (hblank rfl).2.1⟩

end Reading

end Rewards
