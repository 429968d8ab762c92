import Rewards.Load.Arena
import Rewards.Proofs.Load.Run

/-!
Strict and lenient loading. As long as a lenient loader keeps no message a strict one does the same,
and it stops with the first message that the lenient one keeps.
-/

namespace Rewards

namespace Loading

variable {α β : Type}

/-- A strict loader stops over a refusal or over a second arena of a name. -/
def Stops : LoadError → Prop
  | .refused _ _ => True
  | .duplicateArena _ => True
  | _ => False

/-- What a strict run does, given the result of a lenient one and the messages that it keeps. -/
def StrictRun (lenient strict : Except LoadError α × Journal) : List Text → Prop
  | [] => strict = lenient
  | m :: _ => ∃ e j, strict = (.error e, j) ∧ Stops e ∧ e.message = m

/-- From any journal the lenient loader keeps messages, none or some, and the strict one runs as
they tell. -/
def Agrees (lenient strict : Loading α) : Prop :=
  ∀ j, ∃ kept, (lenient.run j).2.errors = j.errors ++ kept ∧
    StrictRun (lenient.run j) (strict.run j) kept

/-- A loader that keeps no message may be strict. -/
theorem agrees_of_errors {x : Loading α} (h : ∀ j, (x.run j).2.errors = j.errors) : Agrees x x :=
  fun j => ⟨[], by rw [h, List.append_nil], rfl⟩

theorem agrees_pure (a : α) : Agrees (pure a) (pure a) := agrees_of_errors fun _ => rfl

theorem agrees_throw (e : LoadError) : Agrees (throw e : Loading α) (throw e) :=
  agrees_of_errors fun _ => rfl

theorem agrees_log (level : Level) (message : Text) : Agrees (log level message) (log level message) :=
  agrees_of_errors fun _ => rfl

/-- One loader after another: the first message kept decides. -/
theorem Agrees.bind {x y : Loading α} {f g : α → Loading β} (h : Agrees x y)
    (hf : ∀ a, Agrees (f a) (g a)) : Agrees (x >>= f) (y >>= g) := by
  intro j
  obtain ⟨kept, hkept, hrun⟩ := h j
  rw [run_bind, run_bind]
  rcases hx : x.run j with ⟨e | a, j'⟩
  · rw [hx] at hkept hrun
    refine ⟨kept, hkept, ?_⟩
    cases kept with
    | nil =>
      have hy : y.run j = (.error e, j') := hrun
      rw [hy]
      rfl
    | cons m ms =>
      obtain ⟨e', j'', hy, hm⟩ := hrun
      rw [hy]
      exact ⟨e', j'', rfl, hm⟩
  · rw [hx] at hkept hrun
    obtain ⟨kept', hkept', hrun'⟩ := hf a j'
    refine ⟨kept ++ kept', ?_, ?_⟩
    · rw [hkept', ← List.append_assoc]
      exact congrArg (· ++ kept') hkept
    · cases kept with
      | nil =>
        have hy : y.run j = (.ok a, j') := hrun
        rw [hy]
        exact hrun'
      | cons m ms =>
        obtain ⟨e', j'', hy, hm⟩ := hrun
        rw [hy]
        exact ⟨e', j'', rfl, hm⟩

/-- A refusal is kept by its message, or raised. -/
theorem agrees_refusal (context : Text) (r : Refusal) :
    Agrees (refusal false context r) (refusal true context r) := fun j =>
  ⟨[context ++ ": " ++ r.message], rfl, .refused context r, j, rfl, trivial, rfl⟩

theorem agrees_values (read : Text → Except Failure α) (context : Text) (ts : List Text) :
    Agrees (values read false context ts) (values read true context ts) := by
  induction ts with
  | nil => exact agrees_pure []
  | cons t ts ih =>
    rw [values, values]
    cases read t with
    | ok a => exact ih.bind fun as => agrees_pure (a :: as)
    | error e =>
      cases e with
      | refused r => exact (agrees_refusal context r).bind fun _ => ih
      | broken f => exact agrees_throw (.broken f)

theorem agrees_descriptor (read : Text → Except Failure α) (context text : Text) :
    Agrees (descriptor read false context text) (descriptor read true context text) := by
  rw [descriptor, descriptor]
  cases tokens text with
  | ok ts => exact agrees_values read context ts
  | error f => exact (agrees_refusal context (.group f)).bind fun _ => agrees_pure []

theorem agrees_entries {κ : Type} (read : Text → Except Failure α) (context : κ → Except Fault Text)
    (es : List (κ × Text)) :
    Agrees (entries read false context es) (entries read true context es) := by
  induction es with
  | nil => exact agrees_pure []
  | cons e es ih =>
    rw [entries, entries]
    cases context e.1 with
    | ok place =>
      exact (agrees_descriptor read place e.2).bind fun as =>
        ih.bind fun bs => agrees_pure ((e.1, as) :: bs)
    | error f => exact agrees_throw (.broken f)

variable (read : Text → Except Failure Grantable)

theorem agrees_completion (t : ArenaTemplate) :
    Agrees (completion read false t) (completion read true t) := by
  rw [completion, completion]
  split
  · exact agrees_pure []
  · exact agrees_pure []
  · exact agrees_descriptor read _ _

theorem agrees_arena (t : ArenaTemplate) : Agrees (arena read false t) (arena read true t) :=
  (agrees_entries read _ _).bind fun _ => (agrees_entries read _ _).bind fun _ =>
    (agrees_completion read t).bind fun _ => (agrees_entries _ _ _).bind fun _ =>
      (agrees_log _ _).bind fun _ => agrees_pure _

/-- A second arena of a name is kept by its message, or raised. -/
theorem agrees_duplicate (name : Text) :
    Agrees (modify (·.skip "arena" (duplicateMessage name))) (throw (.duplicateArena name)) :=
  fun j => ⟨[duplicateMessage name], rfl, .duplicateArena name, j, rfl, trivial, rfl⟩

theorem agrees_arenas (done : List Text) (ts : List ArenaTemplate) :
    Agrees (arenas read false done ts) (arenas read true done ts) := by
  induction ts generalizing done with
  | nil => exact agrees_pure []
  | cons t ts ih =>
    rw [arenas, arenas]
    split
    · have h := (agrees_duplicate t.name).bind fun _ => ih done
      exact h
    · exact (agrees_arena read t).bind fun a => (ih (t.name :: done)).bind fun as =>
        agrees_pure (a :: as)

theorem agrees_rewards (v : Value) : Agrees (rewards read false v) (rewards read true v) := by
  rw [rewards, rewards]
  split
  · exact agrees_throw _
  · exact agrees_arenas read [] _

/-- A loader that is not stopped does as the lenient one. -/
theorem run_lenient_of_strict {strict : Bool} {v : Value} {as : List Arena} {j j' : Journal}
    (h : (rewards read strict v).run j = (.ok as, j')) :
    (rewards read false v).run j = (.ok as, j') := by
  cases strict with
  | false => exact h
  | true =>
    obtain ⟨kept, -, hrun⟩ := agrees_rewards read v j
    cases kept with
    | nil => exact hrun.symm.trans h
    | cons m ms =>
      obtain ⟨e, k, hstop, -⟩ := hrun
      cases hstop.symm.trans h

/-- Strict loading follows lenient loading, with every registry. Where the lenient loader has a result
the strict one has the same, or it stops with the first message of the lenient one; values without
the shape of a reward file stop both. -/
theorem strict_follows_lenient (shared r : Registry) (v : Value) :
    (∀ as j, (rewards (dispatch shared r) false v).run .empty = (.ok as, j) →
      (j.errors = [] → (rewards (dispatch shared r) true v).run .empty = (.ok as, j)) ∧
      ∀ m ms, j.errors = m :: ms → ∃ e j', (rewards (dispatch shared r) true v).run .empty =
        (.error e, j') ∧ Stops e ∧ e.message = m) ∧
    ∀ problems, Schema.checkFile v = .error problems → ∀ strict j,
      (rewards (dispatch shared r) strict v).run j = (.error (.schema problems), j) := by
  constructor
  · intro as j h
    obtain ⟨kept, hkept, hrun⟩ := agrees_rewards (dispatch shared r) v .empty
    rw [h] at hkept hrun
    obtain rfl : j.errors = kept := hkept
    constructor
    · intro hnil
      rw [hnil] at hrun
      exact hrun
    · intro m ms hcons
      rw [hcons] at hrun
      exact hrun
  · intro problems h strict j
    rw [rewards, h, run_throw]

/-- Of a stray parenthesis and a second arena of the same name, strict loading reports the first. -/
theorem strict_stops_at_stray_close :
    let v : Value := .mapping [(.text "arenas", .list [
      .mapping [(.text "name", .text "a"), (.text "completion", .text [')'])],
      .mapping [(.text "name", .text "a")]])]
    let stray : Refusal := .group (.strayClose 0 [')'])
    ∃ j, (rewards (dispatch .empty .empty) false v).run .empty = (.ok [⟨"a", [], [], [], []⟩], j) ∧
      j.errors = ["a completion: ".toList ++ stray.message, duplicateMessage "a"] ∧
      ∃ e j', (rewards (dispatch .empty .empty) true v).run .empty = (.error e, j') ∧
        e.message = "a completion: ".toList ++ stray.message := by
  intro v stray
  have hv : Schema.checkFile v =
      .ok [⟨"a", [], [], some [')'], []⟩, ⟨"a", [], [], none, []⟩] := rfl
  have ht : tokens [')'] = .error (.strayClose 0 [')']) := by decide +kernel
  have hw : byWave [] = [] := by simp [byWave]
  have hl : ∃ j, (rewards (dispatch .empty .empty) false v).run .empty =
      (.ok [⟨"a", [], [], [], []⟩], j) ∧
      j.errors = ["a completion: ".toList ++ stray.message, duplicateMessage "a"] := by
    refine ⟨((Journal.empty.skip "reward" ("a completion: ".toList ++ stray.message)).log .debug
      "Loaded arena a: 0 every, 0 after, 0 classes").skip "arena" (duplicateMessage "a"), ?_, rfl⟩
    simp only [rewards, hv, arenas, arena, hw, entries, completion, descriptor, ht]
    rfl
  obtain ⟨j, hrun, herrors⟩ := hl
  obtain ⟨e, j', hs, -, hm⟩ := ((strict_follows_lenient .empty .empty v).1 _ j hrun).2 _ _ herrors
  exact ⟨j, hrun, herrors, e, j', hs, hm⟩

end Loading

end Rewards
