import Rewards.Payout

/-!
What one payout grants. It goes through the queue of its recipient from the front and either comes to
the end, which marks the recipient as paid, or breaks off at a reward that has no descriptor.
-/

namespace Rewards.Payout

variable {σ : Type}

/-- The loop of a payout, whatever it is that grants act on. -/
def grantEachOn (grant : Grantable → σ → Bool × σ) (who : Text) :
    List Grantable → σ → Journal → Except Fault Bool × σ × Journal
  | [], s, j => (.ok true, s, j)
  | g :: gs, s, j =>
    match grant g s with
    | (true, s) => grantEachOn grant who gs s j
    | (false, s) => match g.canonical with
      | .error f => (.error f, s, j)
      | .ok name =>
        let j := j.log .warning ("Failed to grant " ++ name ++ " to " ++ who)
        let (rest, s, j) := grantEachOn grant who gs s j
        (rest.map fun _ => false, s, j)

theorem grantEach_eq_grantEachOn (sv : Services) (who : Text) (gs : List Grantable) (w : World)
    (j : Journal) : grantEach sv who gs w j = grantEachOn (·.grant sv who) who gs w j := by
  induction gs generalizing w j with
  | nil => rfl
  | cons g gs ih =>
    unfold grantEach grantEachOn
    rcases g.grant sv who w with ⟨_ | _, w⟩
    · cases g.canonical with
      | error f => rfl
      | ok name => simp only [ih]
    · exact ih w j

/-- Grants a reward and adds it to the list of those granted before. -/
def recording (grant : Grantable → σ → Bool × σ) (g : Grantable) (s : σ × List Grantable) :
    Bool × σ × List Grantable :=
  ((grant g s.1).1, (grant g s.1).2, s.2 ++ [g])

/-- The rewards whose grant a payout performs, in order. -/
def performed (sv : Services) (who : Text) (p : Payout) (w : World) (j : Journal) :
    List Grantable :=
  if p.isPaid who then []
  else (grantEachOn (recording (·.grant sv who)) who (p.queue who) (w, []) j).2.1.2

/-- How the loop over a queue ends, and with which rewards granted: all of them, or those up to the
first that did not arrive and has no descriptor. -/
inductive Ends (queue : List Grantable) : List Grantable → Except Fault Bool → Prop
  | complete (all : Bool) : Ends queue queue (.ok all)
  | broken {now later : List Grantable} {g : Grantable} {f : Fault}
      (hq : queue = now ++ g :: later) (hg : g.canonical = .error f) :
      Ends queue (now ++ [g]) (.error f)

theorem Ends.cons {queue now : List Grantable} {answer : Except Fault Bool}
    (h : Ends queue now answer) (g : Grantable) : Ends (g :: queue) (g :: now) answer := by
  cases h with
  | complete all => exact .complete all
  | @broken now later b f hq hb =>
    have hq' : g :: queue = g :: now ++ b :: later := by rw [hq, List.cons_append]
    exact .broken hq' hb

theorem Ends.map {queue now : List Grantable} {answer : Except Fault Bool}
    (h : Ends queue now answer) (f : Bool → Bool) : Ends queue now (answer.map f) := by
  cases h with
  | complete all => exact .complete (f all)
  | broken hq hb => exact .broken hq hb

/-- Recording changes nothing of what the loop does. -/
theorem grantEachOn_recording (grant : Grantable → σ → Bool × σ) (who : Text)
    (gs done : List Grantable) (s : σ) (j : Journal) :
    ∃ now, Ends gs now (grantEachOn grant who gs s j).1 ∧
      grantEachOn (recording grant) who gs (s, done) j =
        ((grantEachOn grant who gs s j).1, ((grantEachOn grant who gs s j).2.1, done ++ now),
          (grantEachOn grant who gs s j).2.2) := by
  induction gs generalizing done s j with
  | nil => exact ⟨[], .complete true, by rw [List.append_nil]; rfl⟩
  | cons g gs ih =>
    have hdone (now : List Grantable) : done ++ [g] ++ now = done ++ g :: now :=
      List.append_cons done g now ▸ rfl
    unfold grantEachOn
    rcases hs : grant g s with ⟨_ | _, s'⟩
    · have hr : recording grant g (s, done) = (false, s', done ++ [g]) := by
        simp only [recording, hs]
      rw [hr]
      cases hg : g.canonical with
      | error f =>
        have hq : g :: gs = [] ++ g :: gs := rfl
        exact ⟨[g], .broken hq hg, rfl⟩
      | ok name =>
        obtain ⟨now, hends, hrun⟩ := ih (done ++ [g]) s'
          (j.log .warning ("Failed to grant " ++ name ++ " to " ++ who))
        refine ⟨g :: now, (hends.map _).cons g, ?_⟩
        simp only [hrun, hdone]
    · have hr : recording grant g (s, done) = (true, s', done ++ [g]) := by
        simp only [recording, hs]
      rw [hr]
      obtain ⟨now, hends, hrun⟩ := ih (done ++ [g]) s' j
      refine ⟨g :: now, hends.cons g, ?_⟩
      simp only [hrun, hdone]

/-- What a payout does: nothing where there is nothing to pay, and else one run of the loop, which
marks the recipient if it comes to its end. -/
inductive Pays (p : Payout) (who : Text) : List Grantable → Except Fault Bool → Payout → Prop
  | idle (h : p.isPaid who = true ∨ p.queue who = []) : Pays p who [] (.ok false) p
  | complete (hp : p.isPaid who = false) (hq : p.queue who ≠ []) (all : Bool) :
      Pays p who (p.queue who) (.ok all) { p with paid := who :: p.paid }
  | broken {now later : List Grantable} {g : Grantable} {f : Fault} (hp : p.isPaid who = false)
      (hq : p.queue who = now ++ g :: later) (hg : g.canonical = .error f) :
      Pays p who (now ++ [g]) (.error f) p

theorem pays_pay (sv : Services) (who : Text) (p : Payout) (w : World) (j : Journal) :
    Pays p who (performed sv who p w j) (p.pay sv who w j).1 (p.pay sv who w j).2.1 := by
  unfold performed pay
  cases hp : p.isPaid who with
  | true => exact .idle (.inl hp)
  | false =>
    cases hq : p.queue who with
    | nil => exact .idle (.inr hq)
    | cons g gs =>
      obtain ⟨now, hends, hrun⟩ := grantEachOn_recording (·.grant sv who) who (g :: gs) [] w j
      rw [← grantEach_eq_grantEachOn] at hends hrun
      rw [if_neg Bool.false_ne_true, if_neg Bool.false_ne_true, hrun, List.nil_append]
      dsimp only
      rw [← hq] at hends ⊢
      generalize grantEach sv who (p.queue who) w j = run at hends ⊢
      obtain ⟨answer, w', j'⟩ := run
      cases hends with
      | complete all => exact .complete hp (by rw [hq]; exact List.cons_ne_nil g gs) all
      | broken hsplit hg => exact .broken hp hsplit hg

namespace Pays

variable {p p' : Payout} {who : Text} {granted : List Grantable} {answer : Except Fault Bool}

theorem fromFront (h : Pays p who granted answer p') : granted <+: p.queue who := by
  cases h with
  | idle => exact List.nil_prefix
  | complete => exact List.prefix_rfl
  | @broken now later g f _ hq _ => exact ⟨later, by rw [hq, List.append_assoc]; rfl⟩

theorem culprit (h : Pays p who granted answer p') {f : Fault} (hf : answer = .error f) :
    ∃ now g, granted = now ++ [g] ∧ g.canonical = .error f := by
  cases h with
  | idle => cases hf
  | complete => cases hf
  | broken _ _ hg =>
    cases hf
    exact ⟨_, _, rfl, hg⟩

theorem idle_of_isPaid (h : Pays p who granted answer p') (hp : p.isPaid who = true) :
    granted = [] ∧ ∃ b, answer = .ok b := by
  cases h with
  | idle => exact ⟨rfl, false, rfl⟩
  | complete hn => exact absurd hp (by simp [hn])
  | broken hn => exact absurd hp (by simp [hn])

theorem ne_nil_of_not_isPaid (h : Pays p who granted answer p') (hp : p.isPaid who = false)
    (hq : p.queue who ≠ []) : granted ≠ [] := by
  cases h with
  | idle h =>
    obtain h | h := h
    · exact absurd h (by simp [hp])
    · exact absurd h hq
  | complete => exact hq
  | broken => simp

theorem queue_eq (h : Pays p who granted answer p') (name : Text) :
    p'.queue name = p.queue name := by
  cases h <;> rfl

theorem isPaid_of_ne (h : Pays p who granted answer p') {name : Text} (hn : name ≠ who) :
    p'.isPaid name = p.isPaid name := by
  cases h with
  | complete => simp [isPaid, hn]
  | _ => rfl

/-- Afterwards the recipient is marked if it was before, or if the queue came to its end. -/
theorem isPaid_iff (h : Pays p who granted answer p') : p'.isPaid who = true ↔
    p.isPaid who = true ∨ (∃ b, answer = .ok b) ∧ granted ≠ [] := by
  cases h with
  | idle => simp
  | complete hp hq all => simp [isPaid, hq]
  | broken => simp

end Pays

end Rewards.Payout
