import Mathlib.Tactic.Common
import Rewards.Command.Session
import Rewards.Proofs.Display.Markup

/-!
Whether a session carries on. What is written before does not matter for that, and where it does not
carry on the command ends with code 1.
-/

namespace Rewards

open Display

namespace Display.Table

theorem isSome_mapM {α β : Type} {f : α → Option β} {as : List α} :
    (as.mapM f).isSome ↔ ∀ a ∈ as, (f a).isSome := by
  induction as with
  | nil => simp
  | cons a as ih =>
    rw [List.mapM_cons, List.forall_mem_cons, ← ih]
    cases f a <;> cases as.mapM f <;> simp

/-- All cells and the title can be shown. -/
structure Matched (t : Table) : Prop where
  cells : ∀ cells ∈ t.rows, ∀ m ∈ cells, Markup.Matched m
  title : Markup.Matched t.title

theorem isSome_render? (t : Table) : t.render?.isSome ↔ t.Matched := by
  have hcells : (t.rows.mapM (List.mapM Markup.render?)).isSome ↔
      ∀ cells ∈ t.rows, ∀ m ∈ cells, Markup.Matched m :=
    isSome_mapM.trans (forall₂_congr fun _ _ => isSome_mapM)
  have hrender : t.render?.isSome ↔
      (t.rows.mapM (List.mapM Markup.render?)).isSome ∧ Markup.Matched t.title := by
    unfold render? Markup.Matched
    cases t.rows.mapM (List.mapM Markup.render?) <;> cases Markup.render? t.title <;> simp
  rw [hrender, hcells]
  exact ⟨fun h => ⟨h.1, h.2⟩, fun h => ⟨h.cells, h.title⟩⟩

end Display.Table

namespace Session

variable {α β : Type}

/-- What a session comes to behind what is written already. -/
def behind (x : Session α) (output : Text) : Except Ending α × Text :=
  Id.run (StateT.run (ExceptT.run x) output)

theorem behind_bind (x : Session α) (f : α → Session β) (output : Text) :
    (x >>= f).behind output = match x.behind output with
      | (.ok a, o) => (f a).behind o
      | (.error e, o) => (.error e, o) := by
  simp only [behind, ExceptT.run_bind, StateT.run_bind, Id.run_bind]
  rcases Id.run (StateT.run (ExceptT.run x) output) with ⟨_ | _, _⟩ <;> rfl

/-- On the condition `p` the session carries on; otherwise it ends the command with code 1. -/
def Verdict (x : Session Unit) (p : Prop) : Prop := ∀ output,
  (p → ∃ o, x.behind output = (.ok (), o)) ∧
    (¬p → ∃ e o, x.behind output = (.error e, o) ∧ e.code = 1)

namespace Verdict

variable {x y : Session Unit} {p q : Prop}

theorem congr (h : Verdict x p) (hpq : p ↔ q) : Verdict x q := propext hpq ▸ h

theorem pure : Verdict (pure ()) True := fun o => ⟨fun _ => ⟨o, rfl⟩, fun h => absurd trivial h⟩

theorem finish {e : Ending} (h : e.code = 1) : Verdict (finish e) False := fun o =>
  ⟨False.elim, fun _ => ⟨e, o, rfl, h⟩⟩

theorem write (t : Text) : Verdict (write t) True := fun o =>
  ⟨fun _ => ⟨o ++ t, rfl⟩, fun h => absurd trivial h⟩

theorem writeMarkup (markup : Text) : Verdict (writeMarkup markup) (Markup.Matched markup) := by
  unfold Session.writeMarkup Markup.Matched
  cases Markup.render? markup with
  | none => exact (finish rfl).congr (by simp)
  | some t => exact (write _).congr (by simp)

theorem writeTable (t : Table) : Verdict (writeTable t) t.Matched := by
  unfold Session.writeTable
  apply Verdict.congr _ t.isSome_render?
  cases t.render? with
  | none => exact (finish rfl).congr (by simp)
  | some t => exact (write _).congr (by simp)

/-- One session after another: both have to carry on. -/
theorem bind (hx : Verdict x p) (hy : Verdict y q) : Verdict (x >>= fun _ => y) (p ∧ q) := by
  intro o
  rw [behind_bind]
  obtain ⟨hok, hend⟩ := hx o
  by_cases hp : p
  · obtain ⟨o', ho⟩ := hok hp
    obtain ⟨hok', hend'⟩ := hy o'
    rw [ho]
    exact ⟨fun h => hok' h.2, fun h => hend' fun hq => h ⟨hp, hq⟩⟩
  · obtain ⟨e, o', ho, he⟩ := hend hp
    rw [ho]
    exact ⟨fun h => absurd h.1 hp, fun _ => ⟨e, o', rfl, he⟩⟩

theorem forM {β : Type} {f : β → Session Unit} {r : β → Prop} {bs : List β}
    (h : ∀ b ∈ bs, Verdict (f b) (r b)) : Verdict (bs.forM f) (∀ b ∈ bs, r b) := by
  induction bs with
  | nil => exact pure.congr (by simp)
  | cons b bs ih =>
    obtain ⟨hb, hbs⟩ := List.forall_mem_cons.1 h
    exact (hb.bind (ih hbs)).congr List.forall_mem_cons.symm

/-- With a message that can be shown or not, the command ends. -/
theorem fail (message : Text) : Verdict (fail message) False :=
  ((writeMarkup _).bind (finish rfl)).congr (and_iff_right_of_imp False.elim)

end Verdict

end Session

end Rewards
