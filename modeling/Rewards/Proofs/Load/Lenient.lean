import Rewards.Proofs.Claimed
import Rewards.Proofs.Load.Account
import Rewards.Proofs.Load.Schema
import Rewards.Proofs.Load.Strictness

/-!
Lenient loading of reward files. It reads every token of the first template of each name, in a fixed
order, and accounts for each: as a value of its descriptor, or by a message. A fault stops it, which
a wave with too many digits for a message makes even where no token breaks.
-/

namespace Rewards

open Text

namespace ArenaTemplate

open Loading

variable (read : Text → Except Failure Grantable) (t : ArenaTemplate)

/-- The tokens that are read as grantables. -/
def rewardTokens : List Text :=
  (t.every ++ t.after).flatMap (fun e => tokensOf e.2) ++ tokensOf (t.completion.getD [])

/-- The tokens that are read as items. -/
def classTokens : List Text := t.classItems.flatMap fun e => tokensOf e.2

/-- Nothing in the template makes a fault: its waves can be written, and no token breaks. -/
structure Loads : Prop where
  waves : ∀ e ∈ t.every ++ t.after, IsShort e.1
  rewards : ∀ u ∈ t.rewardTokens, ¬Breaks (read u)
  items : ∀ u ∈ t.classTokens, ¬Breaks (Item.read (some u))

theorem loads_iff : t.Loads read ↔
    (∀ e ∈ t.every, IsShort e.1 ∧ ∀ u ∈ tokensOf e.2, ¬Breaks (read u)) ∧
    (∀ e ∈ t.after, IsShort e.1 ∧ ∀ u ∈ tokensOf e.2, ¬Breaks (read u)) ∧
    (∀ u ∈ tokensOf (t.completion.getD []), ¬Breaks (read u)) ∧
    ∀ u ∈ t.classTokens, ¬Breaks (Item.read (some u)) := by
  constructor
  · rintro ⟨hw, hr, hi⟩
    unfold rewardTokens at hr
    rw [List.forall_mem_append] at hw hr
    rw [List.forall_mem_flatMap, List.forall_mem_append] at hr
    exact ⟨fun e he => ⟨hw.1 e he, hr.1.1 e he⟩, fun e he => ⟨hw.2 e he, hr.1.2 e he⟩, hr.2, hi⟩
  · rintro ⟨he, ha, hc, hi⟩
    refine ⟨?_, ?_, hi⟩
    · rw [List.forall_mem_append]
      exact ⟨fun e h => (he e h).1, fun e h => (ha e h).1⟩
    · unfold rewardTokens
      rw [List.forall_mem_append, List.forall_mem_flatMap, List.forall_mem_append]
      exact ⟨⟨fun e h => (he e h).2, fun e h => (ha e h).2⟩, hc⟩

/-- The arena of the template, with the values of the tokens that can be read. -/
def loaded : Arena where
  name := t.name
  every := entriesOf read (byWave t.every)
  after := entriesOf read (byWave t.after)
  completion := valuesOf read (t.completion.getD [])
  classItems := entriesOf (fun u => Item.read (some u)) t.classItems

/-- Where a wave stands, if all its digits are written. -/
def waveText (kind : Text) (wave : Int) : Text := t.name ++ ' ' :: kind ++ ' ' :: integer wave

/-- The problems of a wave table, by ascending wave. -/
def waveProblems (kind : Text) (table : WaveTexts) : List Text :=
  (byWave table).flatMap fun e => problemsOf read (t.waveText kind e.1) e.2

/-- The problems of the template in the order in which it is loaded. -/
def problems : List Text :=
  t.waveProblems read "every" t.every ++ t.waveProblems read "after" t.after ++
    problemsOf read (completionContext t.name) (t.completion.getD []) ++
    t.classItems.flatMap fun e =>
      problemsOf (fun u => Item.read (some u)) (classContext t.name e.1) e.2

end ArenaTemplate

namespace Loading

open Journal

variable (read : Text → Except Failure Grantable)

theorem leaves_waves (t : ArenaTemplate) (kind : Text) (table : WaveTexts) :
    Leaves (entries read false (waveContext t.name kind) (byWave table))
      (∀ e ∈ table, IsShort e.1 ∧ ∀ u ∈ tokensOf e.2, ¬Breaks (read u))
      (entriesOf read (byWave table)) (skipped "reward" (t.waveProblems read kind table)) := by
  refine (leaves_entries read (t.waveText kind) (p := IsShort) ?_ ?_ (byWave table)).congr ?_
  · intro n h
    unfold waveContext
    rw [written_of_isShort h]
    rfl
  · intro n h
    unfold waveContext
    rw [written_of_not h]
    exact ⟨_, rfl⟩
  · unfold byWave
    simp only [List.mem_mergeSort]

theorem leaves_completion (t : ArenaTemplate) :
    Leaves (completion read false t) (∀ u ∈ tokensOf (t.completion.getD []), ¬Breaks (read u))
      (valuesOf read (t.completion.getD []))
      (skipped "reward" (problemsOf read (completionContext t.name) (t.completion.getD []))) := by
  unfold completion
  split
  · rename_i h
    rw [h]
    exact leaves_nil read _
  · rename_i h
    rw [h]
    exact leaves_nil read _
  · rename_i text _ h
    rw [h]
    exact leaves_descriptor read _ text

theorem leaves_classItems (t : ArenaTemplate) :
    Leaves (entries (fun u => Item.read (some u)) false (fun c => .ok (classContext t.name c))
        t.classItems) (∀ u ∈ t.classTokens, ¬Breaks (Item.read (some u)))
      (entriesOf (fun u => Item.read (some u)) t.classItems)
      (skipped "reward" (t.classItems.flatMap fun e =>
        problemsOf (fun u => Item.read (some u)) (classContext t.name e.1) e.2)) := by
  refine (leaves_entries (fun u => Item.read (some u)) (classContext t.name) (p := fun _ => True)
    (fun _ _ => rfl) (fun _ h => absurd trivial h) t.classItems).congr ?_
  simp only [true_and, ArenaTemplate.classTokens, List.forall_mem_flatMap]

/-- What is logged when an arena is loaded. -/
def loadedRecord (a : Arena) : LogRecord :=
  ⟨.debug, "Loaded arena " ++ a.name ++ ": " ++ numeral a.every.length ++ " every, " ++
    numeral a.after.length ++ " after, " ++ numeral a.classItems.length ++ " classes"⟩

theorem leaves_arena (t : ArenaTemplate) : Leaves (arena read false t) (t.Loads read)
    (t.loaded read)
    ((skipped "reward" (t.problems read)).append ⟨[], [loadedRecord (t.loaded read)]⟩) := by
  -- One journal for each part first; together they are the problems of the template.
  have h : Leaves (arena read false t)
      ((∀ e ∈ t.every, IsShort e.1 ∧ ∀ u ∈ tokensOf e.2, ¬Breaks (read u)) ∧
        (∀ e ∈ t.after, IsShort e.1 ∧ ∀ u ∈ tokensOf e.2, ¬Breaks (read u)) ∧
        (∀ u ∈ tokensOf (t.completion.getD []), ¬Breaks (read u)) ∧
        (∀ u ∈ t.classTokens, ¬Breaks (Item.read (some u))) ∧ True) (t.loaded read)
      ((skipped "reward" (t.waveProblems read "every" t.every)).append
        ((skipped "reward" (t.waveProblems read "after" t.after)).append
        ((skipped "reward" (problemsOf read (completionContext t.name)
          (t.completion.getD []))).append
        ((skipped "reward" (t.classItems.flatMap fun e =>
          problemsOf (fun u => Item.read (some u)) (classContext t.name e.1) e.2)).append
        ⟨[], [loadedRecord (t.loaded read)]⟩)))) := by
    unfold arena
    apply (leaves_waves read t "every" t.every).bind
    intro _
    apply (leaves_waves read t "after" t.after).bind
    intro _
    apply (leaves_completion read t).bind
    intro _
    apply (leaves_classItems t).bind
    intro _
    exact (Leaves.log _ _).map fun _ => t.loaded read
  rw [← append_assoc, skipped_append, ← append_assoc, skipped_append, ← append_assoc,
    skipped_append] at h
  apply h.congr
  rw [and_true]
  exact (t.loads_iff read).symm

/-- The templates in the order of the file, each with whether its name is in `done` or stands
before it. -/
def marked (done : List Text) (ts : List ArenaTemplate) : List (ArenaTemplate × Bool) :=
  ts.mapIdx fun i t => (t, (done ++ (ts.take i).map (·.name)).contains t.name)

/-- The first templates of their names. -/
def firsts (done : List Text) (ts : List ArenaTemplate) : List ArenaTemplate :=
  (marked done ts).filterMap fun p => if p.2 then none else some p.1

theorem mem_of_mem_firsts {done : List Text} {ts : List ArenaTemplate} {t : ArenaTemplate}
    (h : t ∈ firsts done ts) : t ∈ ts := by
  obtain ⟨p, hp, h⟩ := List.mem_filterMap.1 h
  obtain ⟨i, hi, rfl⟩ := List.mem_mapIdx.1 hp
  dsimp only at h
  split at h <;> cases h
  exact List.getElem_mem hi

theorem marked_cons (done : List Text) (t : ArenaTemplate) (ts : List ArenaTemplate) :
    marked done (t :: ts) = (t, done.contains t.name) :: marked (done ++ [t.name]) ts := by
  unfold marked
  rw [List.mapIdx_cons]
  simp

/-- Only which names are done matters, not their order. -/
theorem marked_congr {done done' : List Text} (h : ∀ n, n ∈ done ↔ n ∈ done')
    (ts : List ArenaTemplate) : marked done ts = marked done' ts := by
  unfold marked
  congr
  funext i t
  rw [Prod.mk.injEq, Bool.eq_iff_iff, List.contains_iff_mem, List.contains_iff_mem,
    List.mem_append, List.mem_append, h]
  exact ⟨rfl, Iff.rfl⟩

section Cons

variable {done : List Text} {t : ArenaTemplate}

theorem marked_cons_of_mem (h : t.name ∈ done) (ts : List ArenaTemplate) :
    marked done (t :: ts) = (t, true) :: marked done ts := by
  have hd : ∀ n, n ∈ done ++ [t.name] ↔ n ∈ done := by
    intro n
    rw [List.mem_append, List.mem_singleton, or_iff_left_of_imp]
    rintro rfl
    exact h
  rw [marked_cons, marked_congr hd, List.contains_iff_mem.2 h]

theorem marked_cons_of_not_mem (h : t.name ∉ done) (ts : List ArenaTemplate) :
    marked done (t :: ts) = (t, false) :: marked (t.name :: done) ts := by
  have hd : ∀ n, n ∈ done ++ [t.name] ↔ n ∈ t.name :: done := by
    intro n
    rw [List.mem_append, List.mem_singleton, List.mem_cons, or_comm]
  rw [marked_cons, marked_congr hd, Bool.eq_false_iff.2 (mt List.contains_iff_mem.1 h)]

theorem firsts_cons_of_mem (h : t.name ∈ done) (ts : List ArenaTemplate) :
    firsts done (t :: ts) = firsts done ts := by
  unfold firsts
  rw [marked_cons_of_mem h]
  rfl

theorem firsts_cons_of_not_mem (h : t.name ∉ done) (ts : List ArenaTemplate) :
    firsts done (t :: ts) = t :: firsts (t.name :: done) ts := by
  unfold firsts
  rw [marked_cons_of_not_mem h]
  rfl

end Cons

/-- What loading one template leaves. -/
def noted (p : ArenaTemplate × Bool) : Journal :=
  if p.2 then skipped "arena" [duplicateMessage p.1.name]
  else (skipped "reward" (p.1.problems read)).append ⟨[], [loadedRecord (p.1.loaded read)]⟩

def notedAll (ps : List (ArenaTemplate × Bool)) : Journal :=
  ps.foldr (fun p j => (noted read p).append j) empty

theorem leaves_arenas (done : List Text) (ts : List ArenaTemplate) :
    Leaves (arenas read false done ts) (∀ t ∈ firsts done ts, t.Loads read)
      ((firsts done ts).map (·.loaded read)) (notedAll read (marked done ts)) := by
  -- Every template that is not skipped adds its name to those that are done.
  induction ts generalizing done with
  | nil => exact (Leaves.pure []).congr (by simp [firsts, marked])
  | cons t ts ih =>
    rw [arenas]
    split
    · rename_i h
      rw [List.contains_iff_mem] at h
      rw [firsts_cons_of_mem h, marked_cons_of_mem h]
      have hs := (Leaves.skip "arena" (duplicateMessage t.name)).bind
        (f := fun _ => arenas read false done ts) fun _ => ih done
      exact hs.congr (and_iff_right trivial)
    · rename_i h
      rw [List.contains_iff_mem] at h
      rw [firsts_cons_of_not_mem h, marked_cons_of_not_mem h, List.forall_mem_cons]
      apply (leaves_arena read t).bind
      intro _
      exact (ih (t.name :: done)).map (t.loaded read :: ·)

theorem told_notedAll (ps : List (ArenaTemplate × Bool)) : (notedAll read ps).Told := by
  induction ps with
  | nil => exact .nil
  | cons p ps ih =>
    apply Told.append _ ih
    unfold noted
    split
    · exact told_skipped (by decide) _
    · exact (told_skipped (by decide) _).append .nil

theorem errors_notedAll (ps : List (ArenaTemplate × Bool)) : (notedAll read ps).errors =
    ps.flatMap fun p => if p.2 then [duplicateMessage p.1.name] else p.1.problems read := by
  induction ps with
  | nil => rfl
  | cons p ps ih =>
    rw [List.flatMap_cons, ← ih]
    change (noted read p).errors ++ (notedAll read ps).errors = _
    unfold noted
    split
    · rfl
    · rw [Journal.append, List.append_nil]
      rfl

theorem leaves_rewards {v : Value} {ts : List ArenaTemplate} (h : Schema.checkFile v = .ok ts) :
    Leaves (rewards read false v) (∀ t ∈ firsts [] ts, t.Loads read)
      ((firsts [] ts).map (·.loaded read)) (notedAll read (marked [] ts)) := by
  rw [rewards, h]
  exact leaves_arenas read [] ts

/-- What any loader has that is not stopped. -/
theorem exists_of_rewards {strict : Bool} {v : Value} {as : List Arena} {j j' : Journal}
    (h : (rewards read strict v).run j = (.ok as, j')) : ∃ ts, Schema.checkFile v = .ok ts ∧
      as = (firsts [] ts).map (·.loaded read) ∧ j' = j.append (notedAll read (marked [] ts)) := by
  have hlenient := run_lenient_of_strict read h
  cases hts : Schema.checkFile v with
  | error problems =>
    rw [rewards, hts] at hlenient
    cases hlenient
  | ok ts =>
    obtain ⟨hok, hfault⟩ := leaves_rewards read hts j
    by_cases hl : ∀ t ∈ firsts [] ts, t.Loads read
    · cases hlenient.symm.trans (hok hl)
      exact ⟨ts, rfl, rfl, rfl⟩
    · obtain ⟨f, k, hbroken⟩ := hfault hl
      cases hlenient.symm.trans hbroken

/-- Tables with distinct waves are read by ascending wave. -/
theorem byWave_ascending {table : WaveTexts} (h : Schema.Distinct table) :
    (byWave table).Perm table ∧ ((byWave table).map (·.1)).Pairwise (· < ·) :=
  ⟨List.mergeSort_perm table _, List.pairwise_map.2 (Assoc.pairwise_mergeSort h)⟩

/-- Where dispatch breaks on no token, only long waves and items that a kind of a client claims
make faults. -/
theorem loads_iff_of_dispatch {shared r : Registry} {t : ArenaTemplate}
    (h : ∀ u ∈ t.rewardTokens ++ t.classTokens, ¬Breaks (dispatch shared r u)) :
    t.Loads (dispatch shared r) ↔ (∀ e ∈ t.every ++ t.after, IsShort e.1) ∧
      ∀ u ∈ t.classTokens, (∃ e ∈ r.custom, e.opening.claims (trim u)) →
        ¬Breaks (Item.read (some u)) := by
  rw [List.forall_mem_append] at h
  constructor
  · rintro ⟨hw, -, hi⟩
    exact ⟨hw, fun u hu _ => hi u hu⟩
  · rintro ⟨hw, hi⟩
    refine ⟨hw, h.1, fun u hu hb => ?_⟩
    -- Items are read without dispatch, which would break on them unless a client's kind takes them.
    by_cases hc : ∃ e ∈ r.custom, e.opening.claims (trim u)
    · exact hi u hu hc hb
    · exact h.2 u hu (breaks_dispatch_of_item hb (by simpa using hc))

/-- Lenient loading accounts for every token. If it has a result, this has an arena for each name, of
the first template of that name, with the values of all tokens that can be read, by ascending wave
and by class in the order of the file; the messages are those for the other tokens, for descriptors
that cannot be split and for further arenas of a name, in the same order, and each is logged as a
warning. There is a result exactly if no token makes a fault and every wave can be written, and
otherwise a fault stops the loader. Where dispatch makes no fault, only a wave of more than 4300
digits does, or an item that a kind of a client keeps from dispatch. -/
theorem lenient_accounts (shared r : Registry) {v : Value} {ts : List ArenaTemplate}
    (h : Schema.checkFile v = .ok ts) :
    let read := dispatch shared r
    let x := (rewards read false v).run .empty
    (∀ as j, x = (.ok as, j) → as = (firsts [] ts).map (·.loaded read) ∧
      j.errors = ((marked [] ts).flatMap fun p =>
        if p.2 then [duplicateMessage p.1.name] else p.1.problems read) ∧ j.Told) ∧
    (∀ t ∈ ts, ∀ table ∈ [t.every, t.after],
      (byWave table).Perm table ∧ ((byWave table).map (·.1)).Pairwise (· < ·)) ∧
    ((∃ as j, x = (.ok as, j)) ↔ ∀ t ∈ firsts [] ts, t.Loads read) ∧
    (∀ e j, x = (.error e, j) → ∃ f, e = .broken f) ∧
    ((∀ t ∈ firsts [] ts, ∀ u ∈ t.rewardTokens ++ t.classTokens, ¬Breaks (read u)) →
      ((∃ as j, x = (.ok as, j)) ↔ ∀ t ∈ firsts [] ts,
        (∀ e ∈ t.every ++ t.after, IsShort e.1) ∧
        ∀ u ∈ t.classTokens, (∃ e ∈ r.custom, e.opening.claims (trim u)) →
          ¬Breaks (Item.read (some u)))) := by
  intro read x
  obtain ⟨hok, hfault⟩ := leaves_rewards read h .empty
  have hloads : (∃ as j, x = (.ok as, j)) ↔ ∀ t ∈ firsts [] ts, t.Loads read := by
    refine ⟨fun ⟨as, j, hx⟩ => ?_, fun hl => ⟨_, _, hok hl⟩⟩
    by_contra hl
    obtain ⟨f, j', hx'⟩ := hfault hl
    cases hx.symm.trans hx'
  refine ⟨fun as j hx => ?_, fun t ht => ?_, hloads, fun e j hx => ?_, fun hd => ?_⟩
  · have hrun := hok (hloads.1 ⟨as, j, hx⟩)
    obtain ⟨rfl, rfl⟩ : as = _ ∧ j = _ := by
      have := hx.symm.trans hrun
      simpa using this
    exact ⟨rfl, errors_notedAll read _, told_notedAll read _⟩
  · obtain ⟨he, ha⟩ := Schema.distinct_of_checkFile h t ht
    rw [List.forall_mem_cons, List.forall_mem_singleton]
    exact ⟨byWave_ascending he, byWave_ascending ha⟩
  · by_cases hl : ∀ t ∈ firsts [] ts, t.Loads read
    · cases hx.symm.trans (hok hl)
    · obtain ⟨f, j', hx'⟩ := hfault hl
      have := hx.symm.trans hx'
      cases this
      exact ⟨f, rfl⟩
  · rw [hloads]
    exact forall₂_congr fun t ht => loads_iff_of_dispatch (hd t ht)

/-- A file with a token that is refused and a second arena of a name has a result for wave 5, and
none for a wave of 4301 digits. -/
theorem stops_at_long_wave :
    let v (n : ℤ) : Value := .mapping [(.text "arenas", .list [
      .mapping [(.text "name", .text "a"), (.text "waves", .mapping [(.text "every",
        .mapping [(.int n, .text "perm:x, $z")])])],
      .mapping [(.text "name", .text "a")]])]
    let x (n : ℤ) := (rewards (dispatch .empty .empty) false (v n)).run .empty
    (∃ j, x 5 = (.ok [⟨"a", [(5, [.leaf (.permission "x")])], [], [], []⟩], j) ∧
      j.errors = ["a every 5: 'z' is not a valid currency value".toList,
        "Duplicate arena 'a'".toList]) ∧
    ¬∃ as j, x (10 ^ 4300) = (.ok as, j) := by
  intro v x
  let read := dispatch .empty .empty
  let first (n : ℤ) : ArenaTemplate := ⟨"a", [(n, "perm:x, $z")], [], none, []⟩
  let again : ArenaTemplate := ⟨"a", [], [], none, []⟩
  have hfive : Schema.checkFile (v 5) = .ok [first 5, again] := rfl
  have hlong : Schema.checkFile (v (10 ^ 4300)) = .ok [first (10 ^ 4300), again] := by
    decide +kernel
  have htokens : tokens "perm:x, $z" = .ok ["perm:x".toList, "$z".toList] := by decide +kernel
  have hx : read "perm:x" = .ok (.leaf (.permission "x")) := by
    change dispatch _ _ _ = _
    rw [dispatch_leaf (by decide) (by decide)]
    rfl
  have hz : read "$z" = .error (.refused (.value (.notA .currency "z"))) := by
    change dispatch _ _ _ = _
    rw [dispatch_leaf (by decide) (by decide)]
    rfl
  have hboth : tokensOf "perm:x, $z" = ["perm:x".toList, "$z".toList] :=
    tokensOf_of_tokens htokens
  constructor
  · obtain ⟨hresult, -, hloads, -⟩ := lenient_accounts .empty .empty hfive
    have hl : (first 5).Loads read := by
      refine ⟨by decide, ?_, by simp [ArenaTemplate.classTokens, first]⟩
      change ∀ u ∈ (tokensOf "perm:x, $z" ++ []) ++ tokensOf [], ¬Breaks (read u)
      rw [hboth, tokensOf_nil, List.append_nil, List.append_nil, List.forall_mem_cons,
        List.forall_mem_singleton, hx, hz]
      exact ⟨(BreaksIff.ok _).iff.1, (BreaksIff.refuse _ _).iff.1⟩
    obtain ⟨as, j, h⟩ := hloads.2 (List.forall_mem_singleton.2 hl)
    obtain ⟨rfl, herrors, -⟩ := hresult as j h
    have hone : byWave [(5, "perm:x, $z".toList)] = [(5, "perm:x, $z".toList)] :=
      List.mergeSort_singleton _
    have hnil : byWave [] = [] := List.mergeSort_nil
    refine ⟨j, h.trans ?_, herrors.trans ?_⟩
    · change (Except.ok [(⟨"a", entriesOf read (byWave [(5, "perm:x, $z".toList)]),
        entriesOf read (byWave []), valuesOf read [], []⟩ : Arena)], j) = _
      rw [hone, hnil, valuesOf_nil]
      simp only [entriesOf, valuesOf, List.map, hboth, List.filterMap, hx, hz, Except.toOption]
    · change (first 5).waveProblems read "every" [(5, "perm:x, $z")] ++
        (first 5).waveProblems read "after" [] ++ problemsOf read _ [] ++ [] ++
        [duplicateMessage "a"] = _
      unfold ArenaTemplate.waveProblems
      rw [hone, hnil, problemsOf_nil, List.flatMap_singleton]
      simp only [problemsOf, failuresOf, htokens, List.filterMap, hx, hz, failure?]
      decide
  · obtain ⟨-, -, hloads, -⟩ := lenient_accounts .empty .empty hlong
    intro h
    -- The long wave is one of the waves that would have to be written.
    have hw := (hloads.1 h (first (10 ^ 4300)) List.mem_cons_self).waves (10 ^ 4300, "perm:x, $z")
      List.mem_cons_self
    unfold IsShort maxDigits at hw
    rw [length_numeral_le_iff (by decide)] at hw
    have habs : ∀ k, (10 ^ k : ℤ).natAbs = 10 ^ k := Int.natAbs_pow 10
    rw [habs] at hw
    exact lt_irrefl _ hw

end Loading

end Rewards
