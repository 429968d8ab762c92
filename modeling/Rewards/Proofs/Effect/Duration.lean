import Mathlib.Tactic.Ring
import Rewards.Effect.Duration
import Rewards.Proofs.Outcome
import Rewards.Proofs.Text.Numeral
import Rewards.Proofs.Text.Trimming

/-!
Durations keep their length. The hours, minutes and seconds that are written are the pairs that are
read, and they add up to the seconds.
-/

namespace Rewards.Duration

open Text

theorem unitPairs?_digits {ds : Text} (h : ∀ c ∈ ds, isDigit c) (read rest : Text) :
    unitPairs? read (ds ++ rest) = unitPairs? (read ++ ds) rest := by
  induction ds generalizing read with
  | nil => rw [List.nil_append, List.append_nil]
  | cons c ds ih =>
    obtain ⟨hc, hds⟩ := List.forall_mem_cons.1 h
    rw [List.cons_append, unitPairs?, if_pos hc, ih hds, List.append_assoc, List.singleton_append]

theorem unitPairs?_unit {ds : Text} (h : ds ≠ []) {u : Char} (hu : isUnit u) (hd : isDigit u = false)
    (rest : Text) :
    unitPairs? ds (u :: rest) = (unitPairs? [] rest).map ((ds, u) :: ·) := by
  rw [unitPairs?, if_neg (by simp [hd]), if_pos ⟨hu, h⟩]

/-- The letters of the units. The long s is none of them. -/
def unitLetters : List Char := ['h', 'm', 's', 'H', 'M', 'S']

theorem unit_cases : ∀ u ∈ unitLetters, isUnit u = true ∧ isDigit u = false ∧
    isAsciiDigit u = false ∧ (unitSeconds? u).isSome = true := by decide

theorem foldl_add (ns : List ℕ) (n : ℕ) : ns.foldl (· + ·) n = n + ns.sum := by
  induction ns generalizing n with
  | nil => rfl
  | cons m ns ih => rw [List.foldl_cons, ih, List.sum_cons, add_assoc]

/-- The digits of a number and its unit, as they stand in a text. -/
abbrev Pair := Text × Char

namespace Pair

def text (p : Pair) : Text := p.1 ++ [p.2]

/-- The number has ASCII digits, and no more than can be read. -/
structure IsValid (p : Pair) : Prop where
  ne_nil : p.1 ≠ []
  digits : ∀ c ∈ p.1, isAsciiDigit c
  short : p.1.length ≤ maxDigits
  unit : p.2 ∈ unitLetters

def seconds (p : Pair) : ℕ := number p.1 * (unitSeconds? p.2).getD 0

theorem unitPairs?_texts {ps : List Pair} (h : ∀ p ∈ ps, p.IsValid) :
    unitPairs? [] (ps.flatMap text) = some ps := by
  induction ps with
  | nil => rfl
  | cons p ps ih =>
    obtain ⟨hp, hps⟩ := List.forall_mem_cons.1 h
    obtain ⟨hu, hd, -, -⟩ := unit_cases p.2 hp.unit
    rw [List.flatMap_cons, text, List.append_assoc,
      unitPairs?_digits fun c hc => isDigit_of_isAsciiDigit (hp.digits c hc), List.nil_append,
      List.singleton_append, unitPairs?_unit hp.ne_nil hu hd, ih hps]
    rfl

theorem pairSeconds_eq {p : Pair} (h : p.IsValid) : pairSeconds p = .ok p.seconds := by
  obtain ⟨k, hk⟩ := Option.isSome_iff_exists.1 (unit_cases p.2 h.unit).2.2.2
  have hn : natural p.1 = .ok (number p.1) := if_neg (Nat.not_lt.2 h.short)
  simp only [pairSeconds, hn, seconds, hk]
  rfl

/-- A text of pairs is read as the seconds that they add up to. -/
theorem readSeconds_texts {ps : List Pair} (hne : ps ≠ []) (h : ∀ p ∈ ps, p.IsValid) :
    readSeconds (ps.flatMap text) = .ok (ps.map seconds).sum := by
  have hall : (ps.flatMap text).all isAsciiDigit = false := by
    obtain ⟨p, qs, rfl⟩ := List.exists_cons_of_ne_nil hne
    have hu := (unit_cases p.2 (h p (by simp)).unit).2.2.1
    rw [List.all_eq_false]
    exact ⟨p.2, by simp [text], by simp [hu]⟩
  have hm : ps.mapM pairSeconds = .ok (ps.map seconds) := by
    rw [Outcome.mapM_eq_each]
    exact Outcome.each_eq_ok fun p hp => pairSeconds_eq (h p hp)
  rw [readSeconds, hall, unitPairs?_texts h]
  obtain ⟨p, qs, rfl⟩ := List.exists_cons_of_ne_nil hne
  simp only [Bool.false_eq_true, if_false] at hm ⊢
  rw [hm]
  exact congrArg Except.ok ((foldl_add _ 0).trans (zero_add _))

theorem isBlank_texts {ps : List Pair} (h : ∀ p ∈ ps, p.IsValid) :
    ∀ c ∈ ps.flatMap text, isBlank c = false := by
  have hu : ∀ u ∈ unitLetters, isBlank u = false := by decide
  intro c hc
  obtain ⟨p, hp, hc⟩ := List.mem_flatMap.1 hc
  obtain hc | hc := List.mem_append.1 hc
  · exact isBlank_of_isAsciiDigit ((h p hp).digits c hc)
  · rw [List.mem_singleton.1 hc]
    exact hu p.2 (h p hp).unit

theorem texts_ne_nil {ps : List Pair} (hne : ps ≠ []) : ps.flatMap text ≠ [] := by
  obtain ⟨p, qs, rfl⟩ := List.exists_cons_of_ne_nil hne
  simp [text]

/-- Pairs are a length, unless they add up to nothing. -/
theorem read_texts {ps : List Pair} (hne : ps ≠ []) (h : ∀ p ∈ ps, p.IsValid) :
    Duration.read (some (ps.flatMap text)) =
      if hpos : 0 < (ps.map seconds).sum then .ok (.seconds _ hpos)
      else .error (.refused (.value (.durationZero (ps.flatMap text)))) := by
  have ht := trim_of_trimmed (trimmed_of_forall (isBlank_texts h))
  have he : (ps.flatMap text).isEmpty = false := List.isEmpty_eq_false_iff.2 (texts_ne_nil hne)
  simp only [Duration.read, Option.getD_some, ht, he, readSeconds_texts hne h, Bool.false_eq_true,
    if_false, bind, Except.bind, pure, Except.pure]

end Pair

/-- A count of hours, minutes or seconds, with its unit. -/
abbrev Count := ℕ × Char

namespace Count

def text (p : Count) : Text := numeral p.1 ++ [p.2]

def IsValid (p : Count) : Prop := p.2 ∈ ['h', 'm', 's'] ∧ IsShort p.1

def seconds (p : Count) : ℕ := p.1 * (unitSeconds? p.2).getD 0

/-- The count as it is written. -/
def pair (p : Count) : Pair := (numeral p.1, p.2)

theorem IsValid.pair {p : Count} (h : p.IsValid) : p.pair.IsValid where
  ne_nil := numeral_ne_nil p.1
  digits _ := isAsciiDigit_of_mem_numeral
  short := h.2
  unit := List.mem_append_left ['H', 'M', 'S'] h.1

theorem seconds_pair (p : Count) : p.pair.seconds = p.seconds := by
  rw [Pair.seconds, pair, number_numeral]
  rfl

theorem sum_pairs (ps : List Count) : ((ps.map pair).map Pair.seconds).sum = (ps.map seconds).sum := by
  rw [List.map_map, ← List.map_congr_left fun p _ => seconds_pair p]
  rfl

theorem texts_pairs (ps : List Count) : (ps.map pair).flatMap Pair.text = ps.flatMap text := by
  rw [List.flatMap_map]
  rfl

end Count

/-- One count, unless it is zero. -/
def countOf (n : ℕ) (unit : Char) : List Count := if n = 0 then [] else [(n, unit)]

def counts (n : ℕ) : List Count :=
  countOf (n / 3600) 'h' ++ countOf (n % 3600 / 60) 'm' ++ countOf (n % 60) 's'

theorem sum_countOf (n : ℕ) (unit : Char) :
    ((countOf n unit).map Count.seconds).sum = n * (unitSeconds? unit).getD 0 := by
  rw [countOf]
  split
  · rename_i h
    rw [h, zero_mul]
    rfl
  · exact add_zero _

theorem sum_counts (n : ℕ) : ((counts n).map Count.seconds).sum = n := by
  rw [counts, List.map_append, List.map_append, List.sum_append, List.sum_append, sum_countOf,
    sum_countOf, sum_countOf]
  change n / 3600 * 3600 + n % 3600 / 60 * 60 + n % 60 * 1 = n
  omega

theorem counts_ne_nil {n : ℕ} (hn : 0 < n) : counts n ≠ [] := by
  intro h
  have := sum_counts n
  rw [h] at this
  exact hn.ne this

theorem flatMap_text_ne_nil {ps : List Count} (h : ps ≠ []) : ps.flatMap Count.text ≠ [] := by
  rw [← Count.texts_pairs]
  exact Pair.texts_ne_nil (by simpa using h)

theorem isShort_of_lt {n : ℕ} (h : n < 60) : IsShort n := by
  have : (numeral n).length ≤ 2 := (length_numeral_le_iff (by decide)).2 (by omega)
  exact this.trans (by decide)

theorem isValid_counts {n : ℕ} (h : IsShort (n / 3600 : ℕ)) :
    ∀ p ∈ counts n, p.IsValid := by
  have hof : ∀ (m : ℕ) (u : Char), u ∈ ['h', 'm', 's'] → IsShort m →
      ∀ p ∈ countOf m u, p.IsValid := by
    intro m u hu hm p hp
    rw [countOf] at hp
    split at hp
    · cases hp
    · rw [List.mem_singleton] at hp
      rw [hp]
      exact ⟨hu, hm⟩
  intro p hp
  rw [counts, List.mem_append, List.mem_append] at hp
  obtain (hp | hp) | hp := hp
  · exact hof _ _ (by decide) h p hp
  · exact hof _ _ (by decide) (isShort_of_lt (by omega)) p hp
  · exact hof _ _ (by decide) (isShort_of_lt (by omega)) p hp

/-- The part of one unit. -/
def part (n : ℤ) (unit : Char) : Except Fault Text :=
  if n = 0 then pure [] else (· ++ [unit]) <$> written n

theorem part_eq {n : ℕ} (h : IsShort n) (unit : Char) :
    part n unit = .ok ((countOf n unit).flatMap Count.text) := by
  rw [part, countOf]
  by_cases hn : n = 0
  · rw [if_pos hn, if_pos (by omega)]
    rfl
  · rw [if_neg hn, if_neg (by omega), written_of_isShort h, integer_natCast]
    simp [Count.text, Functor.map, Except.map]

theorem part_eq_error {n : ℕ} (h : ¬IsShort n) (unit : Char) : part n unit = .error .longNumber := by
  have hn : (n : ℤ) ≠ 0 := by
    intro hn
    rw [hn] at h
    exact h (by decide)
  rw [part, if_neg hn, written_of_not h]
  rfl

/-- A length is written if its hours are not too long a number. -/
theorem formatTicks_eq {n : ℕ} (hn : 0 < n) :
    formatTicks ((n * ticksPerSecond : ℕ) : ℤ) =
      if IsShort (n / 3600 : ℕ) then .ok ((counts n).flatMap Count.text)
      else .error .longNumber := by
  have ht : ((n * ticksPerSecond : ℕ) : ℤ) / (ticksPerSecond : ℕ) = (n : ℕ) := by
    simp only [ticksPerSecond]
    omega
  have hf : formatTicks ((n * ticksPerSecond : ℕ) : ℤ) = (do
      let s := (← part ((n / 3600 : ℕ) : ℤ) 'h') ++ (← part ((n % 3600 / 60 : ℕ) : ℤ) 'm') ++
        (← part ((n % 60 : ℕ) : ℤ) 's')
      return if s.isEmpty then ['0', 's'] else s) := by
    simp only [formatTicks, ht]
    rfl
  rw [hf]
  split
  · rename_i h
    rw [part_eq h, part_eq (isShort_of_lt (by omega)), part_eq (isShort_of_lt (by omega))]
    have hs : (countOf (n / 3600) 'h').flatMap Count.text ++
        (countOf (n % 3600 / 60) 'm').flatMap Count.text ++
        (countOf (n % 60) 's').flatMap Count.text = (counts n).flatMap Count.text := by
      rw [counts, List.flatMap_append, List.flatMap_append]
    simp only [bind, Except.bind, hs]
    rw [if_neg (by rw [List.isEmpty_iff]; exact flatMap_text_ne_nil (counts_ne_nil hn))]
    rfl
  · rename_i h
    rw [part_eq_error h]
    rfl

theorem mem_text_cases {ps : List Count} (h : ∀ p ∈ ps, p.IsValid) :
    ∀ c ∈ ps.flatMap Count.text, isAsciiDigit c ∨ c ∈ ['h', 'm', 's'] := by
  intro c hc
  obtain ⟨p, hp, hc⟩ := List.mem_flatMap.1 hc
  obtain hc | hc := List.mem_append.1 hc
  · exact .inl (isAsciiDigit_of_mem_numeral hc)
  · rw [List.mem_singleton] at hc
    rw [hc]
    exact .inr (h p hp).1

/-- A written length is read back. -/
theorem read_text {n : ℕ} (hn : 0 < n) (h : IsShort (n / 3600 : ℕ)) :
    Duration.read (some ((counts n).flatMap Count.text)) =
      .ok (.seconds n hn) := by
  have hsum : (((counts n).map Count.pair).map Pair.seconds).sum = n := by
    rw [Count.sum_pairs, sum_counts]
  have hvalid : ∀ p ∈ (counts n).map Count.pair, p.IsValid :=
    List.forall_mem_map.2 fun p hp => (isValid_counts h p hp).pair
  rw [← Count.texts_pairs, Pair.read_texts (by simpa using counts_ne_nil hn) hvalid]
  simp only [hsum, dif_pos hn]

/-- A numeral is a number of seconds. -/
theorem read_numeral {n : ℕ} (hn : 0 < n) (h : IsShort n) :
    Duration.read (some (numeral n)) = .ok (.seconds n hn) := by
  have hd : ∀ c ∈ numeral n, isAsciiDigit c := fun c => isAsciiDigit_of_mem_numeral
  have ht : trim (numeral n) = numeral n :=
    trim_of_trimmed (trimmed_of_forall fun c hc => isBlank_of_isAsciiDigit (hd c hc))
  have he : (numeral n).isEmpty = false := by
    rw [List.isEmpty_eq_false_iff]
    exact numeral_ne_nil n
  have hr : readSeconds (numeral n) = .ok n := by
    rw [readSeconds, if_pos (List.all_eq_true.2 hd), natural_numeral h]
    rfl
  simp only [Duration.read, Option.getD_some, ht, he, hr, Bool.false_eq_true, if_false, bind,
    Except.bind, pure, Except.pure, dif_pos hn]

end Rewards.Duration
