import Rewards.Proofs.Outcome
import Rewards.Proofs.Payout.Once
import Rewards.Proofs.World

/-!
A payout performs the whole queue of its recipient and nothing else. Rewards are granted one by one in
the order of the queue, also after one that does not arrive, and all that stands under other names stays
as it is, in the world as in the queues and marks.
-/

namespace Rewards

variable {ε σ : Type}

/-- The rewards have been granted one after another, each in the state that those before it left, and
each with the answer at its place. No grant has failed. -/
inductive GrantedEach (h : Host ε σ) : List Grantable → σ → List Bool → σ → Prop
  | nil (s : σ) : GrantedEach h [] s [] s
  | cons {g : Grantable} {gs : List Grantable} {s s₁ s' : σ} {b : Bool} {bs : List Bool}
      (one : (g.grantBy h).run s = (.ok b, s₁)) (later : GrantedEach h gs s₁ bs s') :
      GrantedEach h (g :: gs) s (b :: bs) s'

/-- Every reward that did not arrive in full has a descriptor. -/
def Named (gs : List Grantable) (bs : List Bool) : Prop :=
  ∀ e ∈ gs.zip bs, e.2 = false → ∃ t, e.1.canonical = .ok t

theorem GrantedEach.keeps {h : Host ε World} {sv : Services} (hw : h.OnWorld sv)
    {gs : List Grantable} {bs : List Bool} {w w' : World} (hg : GrantedEach h gs w bs w')
    {name : Text} (hn : name ≠ h.name) : w'.holdings name = w.holdings name := by
  induction hg with
  | nil => rfl
  | @cons g gs w w₁ w' b bs one later ih =>
    have hone := hw.keeps_grantBy hn g w
    rw [one] at hone
    exact ih.trans hone

/-- In the world of the commands no grant fails. -/
theorem exists_grantedEach (sv : Services) (who : Text) (gs : List Grantable) (w : World) :
    ∃ bs w', GrantedEach (World.host sv who) gs w bs w' := by
  induction gs generalizing w with
  | nil => exact ⟨[], w, .nil w⟩
  | cons g gs ih =>
    obtain ⟨bs, w', hbs⟩ := ih (g.grant sv who w).2
    exact ⟨_, w', .cons (g.run_grantBy_host sv who w) hbs⟩

namespace Payout

/-- The loop of a payout through a host. It breaks off at a reward without a descriptor that did not
arrive, and at a grant that fails. -/
def grantEachBy (h : Host ε σ) :
    List Grantable → σ → Journal → Except (Fault ⊕ ε) Bool × σ × Journal
  | [], s, j => (.ok true, s, j)
  | g :: gs, s, j =>
    match (g.grantBy h).run s with
    | (.error e, s) => (.error (.inr e), s, j)
    | (.ok true, s) => grantEachBy h gs s j
    | (.ok false, s) => match g.canonical with
      | .error f => (.error (.inl f), s, j)
      | .ok name =>
        let j := j.log .warning ("Failed to grant " ++ name ++ " to " ++ h.name)
        let (rest, s, j) := grantEachBy h gs s j
        (rest.map fun _ => false, s, j)

/-- A payout to the recipient of a host. -/
def payBy (h : Host ε σ) (p : Payout) (s : σ) (j : Journal) :
    Except (Fault ⊕ ε) Bool × Payout × σ × Journal :=
  if p.isPaid h.name then
    (.ok false, p, s, j.log .debug (h.name ++ " has already been rewarded"))
  else match p.queue h.name with
    | [] => (.ok false, p, s, j)
    | gs => match grantEachBy h gs s j with
      | (.error f, s, j) => (.error f, p, s, j)
      | (.ok all, s, j) => (.ok all, { p with paid := h.name :: p.paid }, s,
          j.log .info ("Granted " ++ Text.numeral gs.length ++ " rewards to " ++ h.name))

theorem grantEachBy_host (sv : Services) (who : Text) (gs : List Grantable) (w : World)
    (j : Journal) : grantEachBy (World.host sv who) gs w j =
      ((grantEach sv who gs w j).1.mapError .inl, (grantEach sv who gs w j).2) := by
  induction gs generalizing w j with
  | nil => rfl
  | cons g gs ih =>
    unfold grantEachBy grantEach
    rw [g.run_grantBy_host sv who w]
    rcases g.grant sv who w with ⟨_ | _, w⟩
    · cases g.canonical with
      | error f => rfl
      | ok name =>
        simp only [ih, Outcome.mapError_map]
        rfl
    · exact ih w j

/-- In the world of the commands it is the payout of the commands. -/
theorem payBy_host (sv : Services) (who : Text) (p : Payout) (w : World) (j : Journal) :
    p.payBy (World.host sv who) w j =
      ((p.pay sv who w j).1.mapError .inl, (p.pay sv who w j).2) := by
  have hname : (World.host sv who).name = who := rfl
  unfold payBy pay
  rw [hname]
  cases p.isPaid who with
  | true => rfl
  | false =>
    cases p.queue who with
    | nil => rfl
    | cons g gs =>
      simp only [Bool.false_eq_true, if_false, grantEachBy_host]
      rcases grantEach sv who (g :: gs) w j with ⟨_ | _, _, _⟩ <;> rfl

theorem grantEachBy_of_granted {h : Host ε σ} {gs : List Grantable} {bs : List Bool} {s s' : σ}
    (hg : GrantedEach h gs s bs s') (hn : Named gs bs) (j : Journal) :
    ∃ j', grantEachBy h gs s j = (.ok (bs.all id), s', j') := by
  induction hg generalizing j with
  | nil => exact ⟨j, rfl⟩
  | @cons g gs s s₁ s' b bs one later ih =>
    obtain ⟨hfirst, hlater⟩ := List.forall_mem_cons.1 hn
    unfold grantEachBy
    rw [one]
    cases b with
    | true => exact ih hlater j
    | false =>
      obtain ⟨name, hname⟩ := hfirst rfl
      obtain ⟨j', hj⟩ := ih hlater (j.log .warning ("Failed to grant " ++ name ++ " to " ++ h.name))
      simp only [hname, hj]
      exact ⟨j', rfl⟩

theorem payBy_of_idle {h : Host ε σ} {p : Payout} (hp : p.isPaid h.name = true ∨ p.queue h.name = [])
    (s : σ) (j : Journal) : ∃ j', p.payBy h s j = (.ok false, p, s, j') := by
  unfold payBy
  split
  · exact ⟨_, rfl⟩
  · rename_i hn
    rw [hp.resolve_left hn]
    exact ⟨j, rfl⟩

theorem payBy_of_granted {h : Host ε σ} {p : Payout} (hp : p.isPaid h.name = false)
    (hq : p.queue h.name ≠ []) {bs : List Bool} {s s' : σ}
    (hg : GrantedEach h (p.queue h.name) s bs s') (hn : Named (p.queue h.name) bs) (j : Journal) :
    ∃ j', p.payBy h s j = (.ok (bs.all id), { p with paid := h.name :: p.paid }, s', j') := by
  obtain ⟨j', hj⟩ := grantEachBy_of_granted hg hn j
  unfold payBy
  rw [if_neg (by simp [hp])]
  split
  · contradiction
  · rw [hj]
    exact ⟨_, rfl⟩

namespace Session

theorem isPaid_serve (sv : Services) {who : Text} {r : Request} (hr : r ≠ .reset) {s : Session}
    (hp : s.payout.isPaid who = true) : (s.serve sv r).payout.isPaid who = true := by
  cases r with
  | add name reward => exact (queue_prefix_add name who reward s.payout).2.trans hp
  | addAll name rewards => exact (queue_prefix_addAll name who rewards s.payout).2.trans hp
  | pay name =>
    have hpay := pays_pay sv name s.payout s.world s.journal
    by_cases hn : who = name
    · subst hn
      exact hpay.isPaid_iff.2 (.inl hp)
    · exact (hpay.isPaid_of_ne hn).trans hp
  | reset => exact absurd rfl hr
  | elsewhere change => exact hp

/-- Who has been paid stays so up to the next reset. -/
theorem isPaid_run (sv : Services) {who : Text} {rs : List Request} (hr : .reset ∉ rs) {s : Session}
    (hp : s.payout.isPaid who = true) : (s.run sv rs).payout.isPaid who = true := by
  induction rs generalizing s with
  | nil => exact hp
  | cons r rs ih =>
    rw [List.mem_cons, not_or] at hr
    exact ih hr.2 (isPaid_serve sv (Ne.symm hr.1) hp)

end Session

/-- A payout to a recipient who has been paid, or for whom nothing is queued, does nothing. Any other
grants the whole queue in its order, if no grant fails and every reward that does not arrive has a
descriptor. Then it says whether all of it arrived, and marks the recipient; queues, other marks and all
that the world holds under other names stay as they are. Grants to a player of the world of the commands
never fail. What is queued after a payout is not granted before a reset. -/
theorem whole_queue_granted {h : Host ε World} {sv : Services} (hw : h.OnWorld sv) (p : Payout)
    (w : World) (j : Journal) :
    let who := h.name
    (p.isPaid who = true ∨ p.queue who = [] → ∃ j', p.payBy h w j = (.ok false, p, w, j')) ∧
    (∀ bs w', p.isPaid who = false → p.queue who ≠ [] →
      GrantedEach h (p.queue who) w bs w' → Named (p.queue who) bs →
      ∃ p' j', p.payBy h w j = (.ok (bs.all id), p', w', j') ∧ p'.queues = p.queues ∧
        (∀ name, p'.isPaid name = (name == who || p.isPaid name)) ∧
        ∀ name, name ≠ who → w'.holdings name = w.holdings name) ∧
    ((World.host sv who).OnWorld sv ∧
      p.payBy (World.host sv who) w j =
        ((p.pay sv who w j).1.mapError .inl, (p.pay sv who w j).2) ∧
      ∃ bs w', GrantedEach (World.host sv who) (p.queue who) w bs w') ∧
    ∀ rs s, Request.reset ∉ rs → s.payout.isPaid who = true →
      let later := Session.run sv s rs
      ∃ j', later.payout.pay sv who later.world later.journal =
        (.ok false, later.payout, later.world, j') := by
  intro who
  refine ⟨fun hp => payBy_of_idle hp w j, fun bs w' hp hq hg hn => ?_,
    ⟨World.host_onWorld sv who, payBy_host sv who p w j, exists_grantedEach sv who _ w⟩,
    fun rs s hr hp => ?_⟩
  · obtain ⟨j', hj⟩ := payBy_of_granted hp hq hg hn j
    exact ⟨_, j', hj, rfl, fun name => List.contains_cons, fun name hn => hg.keeps hw hn⟩
  · intro later
    have hpaid : later.payout.isPaid who = true := Session.isPaid_run sv hr hp
    unfold pay
    rw [if_pos hpaid]
    exact ⟨_, rfl⟩

/-- No permissions are at hand, so the first reward does not arrive; the dirt behind it does, and another
player keeps slots, queue and mark. -/
theorem dirt_granted_behind_node :
    let dirt : Item := ⟨⟨3, "DIRT"⟩, 2, 0, []⟩
    let gs := [Grantable.leaf (.permission "kit"), .leaf (.item dirt)]
    let p : Payout := ⟨[("p", gs), ("q", gs)], []⟩
    let world (slot : Option Stack) : World :=
      ⟨[("p", ⟨[slot], [], true⟩), ("q", ⟨[none], [], true⟩)], some [], none⟩
    let h := World.host ⟨true, false⟩ "p"
    h.OnWorld ⟨true, false⟩ ∧ p.isPaid "p" = false ∧ p.queue "p" ≠ [] ∧
      GrantedEach h (p.queue "p") (world none) [false, true] (world (some dirt.toStack)) ∧
      Named (p.queue "p") [false, true] ∧
      ∃ p' j', p.payBy h (world none) .empty = (.ok false, p', world (some dirt.toStack), j') ∧
        p'.isPaid "p" = true ∧ p'.isPaid "q" = false ∧ p'.queue "p" = gs := by
  intro dirt gs p world h
  have hw : h.OnWorld ⟨true, false⟩ := World.host_onWorld _ _
  have hg : GrantedEach h gs (world none) [false, true] (world (some dirt.toStack)) :=
    .cons rfl (.cons rfl (.nil _))
  have hn : Named gs [false, true] := by
    intro e he hb
    obtain rfl | rfl : e = (gs[0], false) ∨ e = (gs[1], true) := by simpa [gs] using he
    · exact ⟨_, rfl⟩
    · cases hb
  obtain ⟨-, hwhole, -⟩ := whole_queue_granted hw p (world none) .empty
  obtain ⟨p', j', hrun, hqueues, hpaid, -⟩ := hwhole _ _ rfl (List.cons_ne_nil _ _) hg hn
  refine ⟨hw, rfl, List.cons_ne_nil _ _, hg, hn, p', j', hrun, hpaid "p", hpaid "q", ?_⟩
  rw [queue, hqueues]
  rfl

end Payout

end Rewards
