import Mathlib.Data.List.Chain
import Rewards.Proofs.Payout.Loop
import Rewards.Proofs.Payout.Queueing

/-!
How often rewards are granted between two resets: at most once, as long as no payout that broke off
is tried again. A payout that comes to its end marks the recipient, and none after it grants
anything; one that breaks off leaves no mark, and the next one starts from the front of the queue.
-/

namespace Rewards.Payout

/-- What may happen to a payout, and to the world around it. -/
inductive Request where
  | add (who : Text) (reward : Option Grantable)
  | addAll (who : Text) (rewards : List (Option Grantable))
  | pay (who : Text)
  | reset
  /-- The world changes for other reasons. -/
  | elsewhere (change : World → World)

/-- A call to pay: to whom, which rewards it granted, and its answer. -/
structure Payment where
  who : Text
  granted : List Grantable
  answer : Except Fault Bool

/-- It came to the end of a queue that was not empty. -/
def Payment.Complete (m : Payment) : Prop := (∃ b, m.answer = .ok b) ∧ m.granted ≠ []

/-- A payout, its surroundings, and the calls to pay since the last reset. -/
structure Session where
  payout : Payout
  world : World
  journal : Journal
  payments : List Payment

namespace Session

def start (w : World) (j : Journal) : Session := ⟨.empty, w, j, []⟩

def serve (sv : Services) (s : Session) : Request → Session
  | .add who reward => { s with payout := (s.payout.add who reward).2 }
  | .addAll who rewards => { s with payout := (s.payout.addAll who rewards).2 }
  | .pay who =>
    let (answer, payout, world, journal) := s.payout.pay sv who s.world s.journal
    let granted := performed sv who s.payout s.world s.journal
    ⟨payout, world, journal, s.payments ++ [⟨who, granted, answer⟩]⟩
  | .reset => { s with payout := .empty, payments := [] }
  | .elsewhere change => { s with world := change s.world }

def run (sv : Services) (s : Session) (rs : List Request) : Session := rs.foldl (serve sv) s

def paymentsTo (s : Session) (who : Text) : List Payment := s.payments.filter (·.who = who)

end Session

/-- What holds of the calls to pay one recipient. -/
structure Fair (p : Payout) (who : Text) (ms : List Payment) : Prop where
  fromFront : ∀ m ∈ ms, m.granted <+: p.queue who
  culprit : ∀ m ∈ ms, ∀ f, m.answer = .error f →
    ∃ now g, m.granted = now ++ [g] ∧ g.canonical = .error f
  isPaid_iff : p.isPaid who = true ↔ ∃ m ∈ ms, m.Complete
  settled : p.isPaid who = true → ∀ m ∈ ms.getLast?, ∃ b, m.answer = .ok b
  last : ms.Pairwise fun m n => m.Complete → n.granted = []
  again : ms.IsChain fun m n => (∃ f, m.answer = .error f) → n.granted ≠ []

variable {p p' : Payout} {who : Text} {ms : List Payment}

theorem Fair.queue_ne_nil (h : Fair p who ms) {m : Payment} (hm : m ∈ ms) {f : Fault}
    (hf : m.answer = .error f) : p.queue who ≠ [] := by
  obtain ⟨now, g, hg, -⟩ := h.culprit m hm f hf
  have hpre := h.fromFront m hm
  intro hq
  rw [hq, List.prefix_nil, hg] at hpre
  simp at hpre

/-- One more call to pay. -/
theorem Fair.pay (h : Fair p who ms) {m : Payment} (hm : Pays p who m.granted m.answer p') :
    Fair p' who (ms ++ [m]) where
  fromFront := by
    rw [hm.queue_eq]
    exact List.forall_mem_append.2 ⟨h.fromFront, List.forall_mem_singleton.2 hm.fromFront⟩
  culprit :=
    List.forall_mem_append.2 ⟨h.culprit, List.forall_mem_singleton.2 fun _ => hm.culprit⟩
  isPaid_iff := by
    rw [hm.isPaid_iff, h.isPaid_iff]
    simp [Payment.Complete, or_and_right, exists_or]
  settled hp := by
    intro n hn
    rw [List.getLast?_concat] at hn
    obtain rfl : m = n := Option.some.inj hn
    obtain hp | ⟨hb, -⟩ := hm.isPaid_iff.1 hp
    · exact (hm.idle_of_isPaid hp).2
    · exact hb
  last := by
    apply List.pairwise_append.2 ⟨h.last, List.pairwise_singleton _ m, fun n hn m' hm' hc => ?_⟩
    rw [List.mem_singleton.1 hm']
    exact (hm.idle_of_isPaid (h.isPaid_iff.2 ⟨n, hn, hc⟩)).1
  again := by
    -- A call that broke off left its recipient unpaid, and a queue that is not empty.
    apply List.isChain_append.2 ⟨h.again, .singleton m, fun n hn m' hm' hb => ?_⟩
    obtain rfl : m = m' := by simpa using hm'
    obtain ⟨f, hf⟩ := hb
    apply hm.ne_nil_of_not_isPaid _ (h.queue_ne_nil (List.mem_of_getLast? hn) hf)
    rw [Bool.eq_false_iff]
    intro hp
    obtain ⟨b, hb⟩ := h.settled hp n hn
    rw [hf] at hb
    cases hb

theorem queue_prefix_add (who name : Text) (reward : Option Grantable) (p : Payout) :
    p.queue name <+: (p.add who reward).2.queue name ∧
      (p.add who reward).2.isPaid name = p.isPaid name := by
  cases reward with
  | none => exact ⟨List.prefix_rfl, rfl⟩
  | some g =>
    rw [queue_add]
    exact ⟨List.prefix_append _ _, rfl⟩

theorem queue_prefix_addAll (who name : Text) (rewards : List (Option Grantable)) (p : Payout) :
    p.queue name <+: (p.addAll who rewards).2.queue name ∧
      (p.addAll who rewards).2.isPaid name = p.isPaid name := by
  induction rewards generalizing p with
  | nil => exact ⟨List.prefix_rfl, rfl⟩
  | cons g gs ih =>
    have hadd := queue_prefix_add who name g p
    unfold addAll
    generalize p.add who g = run at hadd
    obtain ⟨_ | _, p'⟩ := run
    · exact hadd
    · exact ⟨hadd.1.trans (ih p').1, (ih p').2.trans hadd.2⟩

namespace Session

def Fair (s : Session) : Prop := ∀ who, Payout.Fair s.payout who (s.paymentsTo who)

end Session

end Rewards.Payout
