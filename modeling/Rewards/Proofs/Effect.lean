import Rewards.Proofs.Effect.Duration
import Rewards.Proofs.Opening

/-!
Effects read back as they are written, if a strength without a length is at most 99.
-/

namespace Rewards.Effect

open Text Catalog

/-- Effects of the catalog; one that lasts for ever has a strength of two digits. -/
structure WellFormed (e : Effect) : Prop where
  kind : e.kind ∈ effects
  amplifier : 0 ≤ e.amplifier
  endless : e.duration = .endless → e.amplifier ≤ 98

/-- Effects of the catalog, of any strength. -/
structure Known (e : Effect) : Prop where
  kind : e.kind ∈ effects
  amplifier : 0 ≤ e.amplifier

theorem WellFormed.known {e : Effect} (h : e.WellFormed) : e.Known := ⟨h.kind, h.amplifier⟩

theorem upperChar_of_isAsciiDigit {c : Char} (h : isAsciiDigit c) : upperChar c = [c] := by
  have hd : 48 ≤ c.toNat ∧ c.toNat ≤ 57 := by
    simpa [isAsciiDigit, Char.le_def, UInt32.le_iff_toNat_le] using h
  have hof := Char.ofNat_toNat c
  generalize c.toNat = n at *
  subst hof
  have hall : ∀ n ∈ List.range' 48 10, upperChar (Char.ofNat n) = [Char.ofNat n] := by
    decide +kernel
  exact hall n (List.mem_range'_1.2 (by omega))

theorem lookup_romans {s : Text} {c : Char} (h : isAsciiDigit c) :
    romans.lookup (c :: s) = none := by
  have hi : c ≠ 'I' := by rintro rfl; exact absurd h (by decide)
  have hv : c ≠ 'V' := by rintro rfl; exact absurd h (by decide)
  simp [romans, List.lookup_cons, beq_false_of_ne hi, beq_false_of_ne hv]

theorem lookup_upper_digits {s : Text} (hne : s ≠ []) (hd : ∀ c ∈ s, isAsciiDigit c) :
    romans.lookup (upper s) = none := by
  obtain ⟨c, t, rfl⟩ := List.exists_cons_of_ne_nil hne
  have hc := hd c List.mem_cons_self
  rw [upper, List.flatMap_cons, upperChar_of_isAsciiDigit hc]
  exact lookup_romans hc

/-- A numeral is a strength from 1. -/
theorem readAmplifier_numeral {n : ℕ} (h : IsShort n) :
    readAmplifier (some (numeral n)) = .ok (n - 1) := by
  have hd : ∀ c ∈ numeral n, isAsciiDigit c := fun c => isAsciiDigit_of_mem_numeral
  have ht : trim (numeral n) = numeral n :=
    trim_of_trimmed (trimmed_of_forall fun c hc => isBlank_of_isAsciiDigit (hd c hc))
  have hr := lookup_upper_digits (numeral_ne_nil n) hd
  have he : (numeral n).isEmpty = false := by
    rw [List.isEmpty_eq_false_iff]
    exact numeral_ne_nil n
  have hall : (numeral n).all isAsciiDigit = true := List.all_eq_true.2 hd
  simp only [readAmplifier, Option.getD_some, ht, hr, he, hall, natural_numeral h, if_true,
    Bool.false_eq_true, if_false]
  rfl

theorem romanLetter_of_isAsciiDigit {c : Char} (h : isAsciiDigit c) : romanLetter c = c := by
  have hi : ¬(c = 'i' ∨ c = 'ı' ∨ c = 'İ') := by
    rintro (rfl | rfl | rfl) <;> exact absurd h (by decide)
  have hv : c ≠ 'v' := by rintro rfl; exact absurd h (by decide)
  rw [romanLetter, if_neg hi, if_neg hv]

/-- A numeral looks like a strength if it has at most two digits. -/
theorem looksLikeAmplifier_numeral (n : ℕ) : looksLikeAmplifier (numeral n) = true ↔ n ≤ 99 := by
  have hd : (numeral n).all isDigit = true :=
    List.all_eq_true.2 fun c => isDigit_of_mem_numeral
  have hroman : romans.lookup ((numeral n).map romanLetter) = none := by
    obtain ⟨c, s, hcs⟩ := List.exists_cons_of_ne_nil (numeral_ne_nil n)
    have hc : isAsciiDigit c := isAsciiDigit_of_mem_numeral (hcs ▸ List.mem_cons_self)
    rw [hcs, List.map_cons, romanLetter_of_isAsciiDigit hc]
    exact lookup_romans hc
  have hl : (numeral n).length ≤ 2 ↔ n < 100 := length_numeral_le_iff (by decide)
  have hp := List.length_pos_iff.2 (numeral_ne_nil n)
  simp only [looksLikeAmplifier, hd, hroman, Option.isSome_none, Bool.or_false, Bool.true_and,
    Bool.or_eq_true, beq_iff_eq]
  omega

/-- The effect of a kind and the parts after its name. -/
def ofParts (kind : Key) : List Text → Except Failure Effect
  | [] => .ok ⟨kind, 0, .endless⟩
  | [a] =>
    if looksLikeAmplifier a then (readAmplifier (some a)).map fun n : ℕ => ⟨kind, n, .endless⟩
    else (Duration.read (some a)).map fun d => ⟨kind, 0, d⟩
  | a :: l :: _ => do
    let n ← readAmplifier (some a)
    (Duration.read (some l)).map fun d => ⟨kind, n, d⟩

theorem ofBody_of_words {b name : Text} {rest : List Text} (hw : words (trim b) = name :: rest)
    (hl : rest.length ≤ 2) :
    ofBody b = (effect? name).mapError .broken >>= fun k? =>
      k?.elim (refuse .effect name) (ofParts · rest) := by
  simp only [ofBody, hw, if_neg (Nat.not_lt.2 hl)]
  refine congrArg _ (funext fun k? => ?_)
  cases k? with
  | none => rfl
  | some k =>
    rcases rest with _ | ⟨a, _ | ⟨l, _ | ⟨_, _⟩⟩⟩
    · rfl
    · simp only [Option.elim_some, ofParts]
      split <;> rfl
    · rfl
    · simp only [List.length_cons] at hl
      omega

section Body

variable {b name : Text} {kind : Key} (hk : effect? name = .ok (some kind))

include hk

theorem ofBody_of_parts {rest : List Text} (hw : words (trim b) = name :: rest)
    (hl : rest.length ≤ 2) : ofBody b = ofParts kind rest := by
  rw [ofBody_of_words hw hl, hk]
  rfl

theorem ofBody_name (hw : words (trim b) = [name]) : ofBody b = .ok ⟨kind, 0, .endless⟩ :=
  ofBody_of_parts hk hw (by simp)

theorem ofBody_strength {a : Text} {n : ℕ} (hw : words (trim b) = [name, a])
    (ha : looksLikeAmplifier a = true) (hn : readAmplifier (some a) = .ok n) :
    ofBody b = .ok ⟨kind, n, .endless⟩ := by
  rw [ofBody_of_parts hk hw (by simp), ofParts, if_pos ha, hn]
  rfl

theorem ofBody_length {a l : Text} {n : ℕ} {d : Duration} (hw : words (trim b) = [name, a, l])
    (hn : readAmplifier (some a) = .ok n) (hd : Duration.read (some l) = .ok d) :
    ofBody b = .ok ⟨kind, n, d⟩ := by
  rw [ofBody_of_parts hk hw (by simp), ofParts, hn, hd]
  rfl

end Body

/-- The name, the strength if it is written, and the length if there is one. -/
def parts (e : Effect) : List Text :=
  match e.duration with
  | .endless =>
    if e.amplifier = 0 then [Item.lowerName e.kind]
    else [Item.lowerName e.kind, integer (e.amplifier + 1)]
  | .seconds n _ => [Item.lowerName e.kind, integer (e.amplifier + 1),
      (Duration.counts n).flatMap Duration.Count.text]

def body (e : Effect) : Text := joined [' '] e.parts

/-- The integers that are written and may be long. -/
def integers (e : Effect) : List ℤ :=
  match e.duration with
  | .endless => if e.amplifier = 0 then [] else [e.amplifier + 1]
  | .seconds n _ => [e.amplifier + 1, (n / 3600 : ℕ)]

theorem canonical_eq (e : Effect) : e.canonical =
    if ∀ n ∈ e.integers, IsShort n then .ok ("eff:".toList ++ e.body)
    else .error .longNumber := by
  obtain ⟨kind, amplifier, duration⟩ := e
  cases duration with
  | endless =>
    by_cases h0 : amplifier = 0
    · simp [canonical, integers, body, parts, joined, h0, pure, Except.pure]
    · by_cases h : IsShort (amplifier + 1)
      · simp [canonical, integers, body, parts, joined, h0, h, written_of_isShort, bind,
          Except.bind, pure, Except.pure]
      · simp [canonical, integers, h0, h, written_of_not, bind, Except.bind]
  | seconds n hn =>
    by_cases h : IsShort (amplifier + 1)
    · have hf := Duration.formatTicks_eq hn
      by_cases hh : IsShort (n / 3600 : ℕ)
      · rw [if_pos hh] at hf
        simp only [canonical, integers, body, parts, joined, written_of_isShort h, Duration.ticks,
          hf, bind, Except.bind, pure, Except.pure, List.mem_cons, List.not_mem_nil, or_false,
          forall_eq_or_imp, forall_eq, h, hh, and_self, if_true, List.append_assoc,
          List.cons_append, List.nil_append]
      · rw [if_neg hh] at hf
        simp only [canonical, integers, written_of_isShort h, Duration.ticks, hf, bind,
          Except.bind, List.mem_cons, List.not_mem_nil, or_false,
          forall_eq_or_imp, forall_eq, h, hh, and_false, if_false]
    · simp [canonical, integers, h, written_of_not, bind, Except.bind]

/-- The characters of a written effect. -/
def isEffectChar (c : Char) : Bool := isLowerChar c || isAsciiDigit c || c = ' '

theorem isEffectChar_cases {c : Char} (h : isEffectChar c) :
    Token.isParen c = false ∧ c ≠ ',' := by
  simp only [isEffectChar, Bool.or_eq_true, decide_eq_true_eq] at h
  obtain (h | h) | rfl := h
  · exact ⟨(isLowerChar_cases h).2.2.1, (isLowerChar_cases h).2.2.2.1⟩
  · refine ⟨Token.isParen_of_isAsciiDigit h, ?_⟩
    rintro rfl
    exact absurd h (by decide)
  · decide

theorem isEffectChar_of_isAsciiDigit {c : Char} (h : isAsciiDigit c) : isEffectChar c := by
  simp [isEffectChar, h]

theorem isEffectChar_of_isLowerChar {c : Char} (h : isLowerChar c) : isEffectChar c := by
  simp [isEffectChar, h]

section Known

variable {e : Effect} (h : e.Known)

include h

theorem exists_amplifier : ∃ n : ℕ, e.amplifier = n ∧ integer (e.amplifier + 1) = numeral (n + 1) := by
  obtain ⟨n, hn⟩ := Int.eq_ofNat_of_zero_le h.amplifier
  refine ⟨n, hn, ?_⟩
  rw [hn]
  exact_mod_cast integer_natCast (n + 1)

theorem lowerName_part : Item.lowerName e.kind ≠ [] ∧ ∀ c ∈ Item.lowerName e.kind, isLowerChar c := by
  have hn := (effects_named e.kind h.kind).1
  refine ⟨?_, isLowerChar_of_mem_lower hn⟩
  simpa [Item.lowerName] using hn.1

variable (hs : ∀ n ∈ e.integers, IsShort n)

include hs

theorem parts_cases : ∀ w ∈ e.parts, w ≠ [] ∧ ∀ c ∈ w, isBlank c = false ∧ isEffectChar c := by
  obtain ⟨n, -, hint⟩ := exists_amplifier h
  obtain ⟨hne, hname⟩ := lowerName_part h
  have hn : Item.lowerName e.kind ≠ [] ∧
      ∀ c ∈ Item.lowerName e.kind, isBlank c = false ∧ isEffectChar c :=
    ⟨hne, fun c hc => ⟨(isLowerChar_cases (hname c hc)).1,
      isEffectChar_of_isLowerChar (hname c hc)⟩⟩
  have ha : integer (e.amplifier + 1) ≠ [] ∧
      ∀ c ∈ integer (e.amplifier + 1), isBlank c = false ∧ isEffectChar c := by
    rw [hint]
    refine ⟨numeral_ne_nil _, fun c hc => ?_⟩
    have hd := isAsciiDigit_of_mem_numeral hc
    exact ⟨isBlank_of_isAsciiDigit hd, isEffectChar_of_isAsciiDigit hd⟩
  rw [parts]
  rw [integers] at hs
  split at hs
  · split
    · exact List.forall_mem_singleton.2 hn
    · exact List.forall_mem_cons.2 ⟨hn, List.forall_mem_singleton.2 ha⟩
  · rename_i k hk _
    have hv := Duration.isValid_counts (hs (k / 3600 : ℕ) (by simp))
    refine List.forall_mem_cons.2 ⟨hn, List.forall_mem_cons.2 ⟨ha, List.forall_mem_singleton.2 ?_⟩⟩
    refine ⟨Duration.flatMap_text_ne_nil (Duration.counts_ne_nil hk), fun c hc => ?_⟩
    obtain hd | hu := Duration.mem_text_cases hv c hc
    · exact ⟨isBlank_of_isAsciiDigit hd, isEffectChar_of_isAsciiDigit hd⟩
    · have hu' : ∀ u ∈ ['h', 'm', 's'], isBlank u = false ∧ isEffectChar u := by decide
      exact hu' c hu

theorem body_ne_nil : e.body ≠ [] := by
  refine joined_ne_nil ?_ fun w hw => (parts_cases h hs w hw).1
  rw [parts]
  split
  · split <;> exact List.cons_ne_nil _ _
  · exact List.cons_ne_nil _ _

theorem trimmed_body : Trimmed e.body :=
  trimmed_joined fun w hw => ⟨(parts_cases h hs w hw).1,
    trimmed_of_forall fun c hc => ((parts_cases h hs w hw).2 c hc).1⟩

theorem isEffectChar_of_mem_body : ∀ c ∈ e.body, isEffectChar c :=
  forall_mem_joined (by decide) fun w hw c hc => ((parts_cases h hs w hw).2 c hc).2

theorem words_body : words (trim e.body) = e.parts := by
  rw [trim_of_trimmed (trimmed_body h hs)]
  exact words_joined fun w hw => ⟨(parts_cases h hs w hw).1,
    fun c hc => ((parts_cases h hs w hw).2 c hc).1⟩

theorem isBody_body : Opening.isBody e.body = true :=
  Opening.isBody_iff.2 ⟨body_ne_nil h hs, fun hm =>
    (isEffectChar_cases (isEffectChar_of_mem_body h hs _ hm)).2 rfl⟩

theorem body?_written : opening.body? ("eff:".toList ++ e.body) = some e.body :=
  (Opening.body?_keyword (k := "ff".toList) (by decide) (by decide) (isBody_body h hs)).trans
    (if_pos (by decide))

theorem read_written : read (some ("eff:".toList ++ e.body)) = ofBody e.body := by
  have hkey : Trimmed "eff".toList := trimmed_of_forall (by decide)
  have htrim : trim ("eff:".toList ++ e.body) = "eff:".toList ++ e.body :=
    trim_of_trimmed (hkey.append (by decide) (trimmed_body h hs) (body_ne_nil h hs) [':'])
  change ofBody (opening.strip (trim ("eff:".toList ++ e.body))) = ofBody e.body
  rw [htrim, Opening.strip, body?_written h hs]
  rfl

end Known

/-- A written effect reads back to the effect. -/
theorem ofBody_body {e : Effect} (h : e.WellFormed) (hs : ∀ n ∈ e.integers, IsShort n) :
    ofBody e.body = .ok e := by
  have hw := words_body h.known hs
  have hk := effect?_lowerName h.kind
  obtain ⟨n, hn, hint⟩ := exists_amplifier h.known
  have hend := h.endless
  obtain ⟨kind, amplifier, duration⟩ := e
  simp only at hn hint hend
  subst hn
  cases duration with
  | endless =>
    by_cases h0 : (n : ℤ) = 0
    · simp only [parts, if_pos h0] at hw
      rw [ofBody_name hk hw, h0]
    · simp only [parts, if_neg h0, hint] at hw
      have hn := hend rfl
      have hs := hs (n + 1) (by simp only [integers, if_neg h0, List.mem_singleton])
      rw [ofBody_strength hk hw ((looksLikeAmplifier_numeral _).2 (by omega))
        (readAmplifier_numeral (by exact_mod_cast hs)), Nat.add_sub_cancel]
  | seconds k hk0 =>
    simp only [parts, hint] at hw
    have h1 := hs (n + 1) (by simp [integers])
    have h2 := hs (k / 3600 : ℕ) (by simp [integers])
    rw [ofBody_length hk hw (readAmplifier_numeral (by exact_mod_cast h1))
      (Duration.read_text hk0 h2), Nat.add_sub_cancel]

end Rewards.Effect
