import Mathlib.Data.List.Forall2
import Rewards.Load.Arena
import Rewards.Proofs.Load.Run

/-!
What lenient loading leaves. A loader has the values of the tokens that can be read and keeps one
message for each of the others, in the order in which they stand, and logs a warning with each
message. Only a fault stops it.
-/

namespace Rewards

open Text

namespace Journal

/-- One journal after another. -/
def append (j k : Journal) : Journal := ⟨j.errors ++ k.errors, j.records ++ k.records⟩

/-- What is left of problems that each make something be skipped. -/
def skipped (what : Text) (problems : List Text) : Journal :=
  ⟨problems, problems.map fun m => ⟨.warning, "Skipping " ++ what ++ ": " ++ m⟩⟩

theorem append_empty (j : Journal) : j.append empty = j := by
  simp [append, empty]

theorem append_assoc (j k l : Journal) : (j.append k).append l = j.append (k.append l) := by
  simp [append]

theorem skipped_append (what : Text) (ms ns : List Text) :
    (skipped what ms).append (skipped what ns) = skipped what (ms ++ ns) := by
  simp [append, skipped]

/-- A record that warns of a problem. -/
def Warns (problem : Text) (r : LogRecord) : Prop :=
  r.level = .warning ∧ ∃ what ∈ ["reward".toList, "arena".toList],
    r.message = "Skipping " ++ what ++ ": " ++ problem

/-- There is one warning for each problem, in order. -/
def Told (j : Journal) : Prop :=
  List.Forall₂ Warns j.errors (j.records.filter fun r => r.level = .warning)

theorem Told.append {j k : Journal} (hj : j.Told) (hk : k.Told) : (j.append k).Told := by
  unfold Told Journal.append
  rw [List.filter_append]
  exact List.rel_append hj hk

theorem told_skipped {what : Text} (h : what ∈ ["reward".toList, "arena".toList])
    (ms : List Text) : (skipped what ms).Told := by
  induction ms with
  | nil => exact .nil
  | cons m ms ih => exact .cons ⟨rfl, what, h, rfl⟩ ih

end Journal

namespace Loading

open Journal

variable {α β : Type}

/-- The tokens of a descriptor; one that cannot be split has none. -/
def tokensOf (text : Text) : List Text := (tokens text).toOption.getD []

/-- The values of a descriptor's tokens, without those that cannot be read. -/
def valuesOf (read : Text → Except Failure α) (text : Text) : List α :=
  (tokensOf text).filterMap fun t => (read t).toOption

def failure? : Except Failure α → Option Failure
  | .ok _ => none
  | .error e => some e

/-- The failures of a descriptor's tokens, or the one that keeps it from being split. -/
def failuresOf (read : Text → Except Failure α) (text : Text) : List Failure :=
  match tokens text with
  | .ok ts => ts.filterMap fun t => failure? (read t)
  | .error f => [.refused (.group f)]

/-- One message for each failure of a descriptor. -/
def problemsOf (read : Text → Except Failure α) (context text : Text) : List Text :=
  (failuresOf read text).map fun e => context ++ ": " ++ e.message

theorem tokensOf_of_tokens {text : Text} {ts : List Text} (h : tokens text = .ok ts) :
    tokensOf text = ts := by
  rw [tokensOf, h]
  rfl

theorem failuresOf_of_tokens {read : Text → Except Failure α} {text : Text} {ts : List Text}
    (h : tokens text = .ok ts) : failuresOf read text = ts.filterMap fun t => failure? (read t) := by
  rw [failuresOf, h]

theorem tokensOf_nil : tokensOf [] = [] := tokensOf_of_tokens tokens_nil

theorem valuesOf_nil (read : Text → Except Failure α) : valuesOf read [] = [] := by
  rw [valuesOf, tokensOf_nil]
  rfl

theorem problemsOf_nil (read : Text → Except Failure α) (context : Text) :
    problemsOf read context [] = [] := by
  rw [problemsOf, failuresOf, tokens_nil]
  rfl

/-- On the condition `p` the loader has the value `a` and leaves `k`; otherwise a fault stops it. -/
def Leaves (x : Loading α) (p : Prop) (a : α) (k : Journal) : Prop := ∀ j,
  (p → x.run j = (.ok a, j.append k)) ∧ (¬p → ∃ f j', x.run j = (.error (.broken f), j'))

namespace Leaves

variable {x : Loading α} {p q : Prop} {a : α} {k l : Journal}

theorem congr (h : Leaves x p a k) (hpq : p ↔ q) : Leaves x q a k :=
  propext hpq ▸ h

theorem pure (a : α) : Leaves (pure a) True a empty := fun j =>
  ⟨fun _ => by rw [run_pure, append_empty], fun h => absurd trivial h⟩

theorem broken (f : Fault) (a : α) (k : Journal) : Leaves (throw (.broken f)) False a k := fun j =>
  ⟨False.elim, fun _ => ⟨f, j, run_throw _ j⟩⟩

theorem log (level : Level) (message : Text) :
    Leaves (log level message) True () ⟨[], [⟨level, message⟩]⟩ := fun j => by
  refine ⟨fun _ => ?_, fun h => absurd trivial h⟩
  change (Except.ok (), j.log level message) = _
  simp [append, Journal.log]

theorem skip (what problem : Text) :
    Leaves (modify (·.skip what problem)) True () (skipped what [problem]) := fun _ =>
  ⟨fun _ => rfl, fun h => absurd trivial h⟩

/-- One loader after another: both have to have a value. -/
theorem bind {f : α → Loading β} {b : β} (hx : Leaves x p a k) (hf : p → Leaves (f a) q b l) :
    Leaves (x >>= f) (p ∧ q) b (k.append l) := by
  intro j
  rw [run_bind]
  obtain ⟨hx, hfault⟩ := hx j
  by_cases hp : p
  · -- The second loader goes on from what the first one has left.
    obtain ⟨hok, herr⟩ := hf hp (j.append k)
    rw [hx hp, ← append_assoc]
    exact ⟨fun h => hok h.2, fun h => herr fun hq => h ⟨hp, hq⟩⟩
  · obtain ⟨e, j', h⟩ := hfault hp
    rw [h]
    exact ⟨fun h => absurd h.1 hp, fun _ => ⟨e, j', rfl⟩⟩

/-- A last step that has no part in it. -/
theorem map (hx : Leaves x p a k) (f : α → β) : Leaves (x >>= fun a => Pure.pure (f a)) p (f a) k := by
  have h := hx.bind (f := fun a => Pure.pure (f a)) fun _ => pure (f a)
  rw [append_empty] at h
  exact h.congr (and_iff_left trivial)

end Leaves

theorem leaves_refusal (context : Text) (r : Refusal) :
    Leaves (refusal false context r) True () (skipped "reward" [context ++ ": " ++ r.message]) :=
  Leaves.skip _ _

variable (read : Text → Except Failure α) (context : Text)

theorem leaves_values (ts : List Text) : Leaves (values read false context ts)
    (∀ t ∈ ts, ¬Breaks (read t)) (ts.filterMap fun t => (read t).toOption)
    (skipped "reward" ((ts.filterMap fun t => failure? (read t)).map
      fun e => context ++ ": " ++ e.message)) := by
  induction ts with
  | nil => exact (Leaves.pure []).congr (by simp)
  | cons t ts ih =>
    rw [values, List.filterMap_cons, List.filterMap_cons, List.forall_mem_cons]
    cases h : read t with
    | ok a =>
      have hb : ¬Breaks (Except.ok a : Except Failure α) := fun ⟨f, hf⟩ => by cases hf
      exact (ih.map (a :: ·)).congr (and_iff_right hb).symm
    | error e =>
      cases e with
      | refused r =>
        -- The message of this token comes before those of the others.
        have hb : ¬Breaks (Except.error (.refused r) : Except Failure α) := fun ⟨f, hf⟩ => by
          cases hf
        have hs := (leaves_refusal context r).bind (f := fun _ => values read false context ts)
          fun _ => ih
        rw [skipped_append] at hs
        exact hs.congr (by rw [true_and, and_iff_right hb])
      | broken f =>
        exact (Leaves.broken f _ _).congr (iff_of_false id fun hb => hb.1 ⟨f, rfl⟩)

theorem leaves_descriptor (text : Text) : Leaves (descriptor read false context text)
    (∀ t ∈ tokensOf text, ¬Breaks (read t)) (valuesOf read text)
    (skipped "reward" (problemsOf read context text)) := by
  unfold descriptor valuesOf problemsOf failuresOf tokensOf
  cases tokens text with
  | ok ts => exact leaves_values read context ts
  | error f => exact ((leaves_refusal context (.group f)).map fun _ => []).congr (by simp [Except.toOption])

/-- There is nothing to say about an empty descriptor. -/
theorem leaves_nil : Leaves (pure []) (∀ t ∈ tokensOf [], ¬Breaks (read t)) (valuesOf read [])
    (skipped "reward" (problemsOf read context [])) := by
  rw [tokensOf_nil, valuesOf_nil, problemsOf_nil]
  exact (Leaves.pure []).congr (by simp)

/-- The keys with the values of their descriptors. -/
def entriesOf {κ : Type} (es : List (κ × Text)) : List (κ × List α) :=
  es.map fun e => (e.1, valuesOf read e.2)

theorem leaves_entries {κ : Type} {context : κ → Except Fault Text} {p : κ → Prop}
    (place : κ → Text) (hp : ∀ k, p k → context k = .ok (place k))
    (hn : ∀ k, ¬p k → ∃ f, context k = .error f) (es : List (κ × Text)) :
    Leaves (entries read false context es)
      (∀ e ∈ es, p e.1 ∧ ∀ t ∈ tokensOf e.2, ¬Breaks (read t)) (entriesOf read es)
      (skipped "reward" (es.flatMap fun e => problemsOf read (place e.1) e.2)) := by
  induction es with
  | nil => exact (Leaves.pure []).congr (by simp)
  | cons e es ih =>
    rw [entries, List.forall_mem_cons, List.flatMap_cons, ← skipped_append]
    by_cases h : p e.1
    · rw [hp _ h]
      have hs := (leaves_descriptor read (place e.1) e.2).bind
        (f := fun as => do return (e.1, as) :: (← entries read false context es))
        fun _ => ih.map ((e.1, valuesOf read e.2) :: ·)
      exact hs.congr (by rw [and_iff_right h])
    · -- Without a place for its messages the descriptor is not read at all.
      obtain ⟨f, hf⟩ := hn _ h
      rw [hf]
      exact (Leaves.broken f _ _).congr (iff_of_false id fun hb => h hb.1.1)

end Loading

end Rewards
