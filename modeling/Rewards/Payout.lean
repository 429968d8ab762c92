import Rewards.Load.Journal
import Rewards.World

/-!
Rewards that are collected while a session runs and paid out once. What is queued for a recipient
stays queued after the payout, and only a reset lets it be paid again.
-/

namespace Rewards

structure Payout where
  queues : Assoc Text (List Grantable)
  paid : List Text

namespace Payout

def empty : Payout := ⟨[], []⟩

def queue (p : Payout) (who : Text) : List Grantable := (p.queues.lookup who).getD []

def isPaid (p : Payout) (who : Text) : Bool := p.paid.contains who

/-- There is no reward to queue. -/
inductive NoReward where
  | none
  deriving DecidableEq, Repr

def NoReward.message (_ : NoReward) : Text := "Rewards cannot be None"

def add (who : Text) (reward : Option Grantable) (p : Payout) : Except NoReward Unit × Payout :=
  match reward with
  | none => (.error .none, p)
  | some g => (.ok (), { p with queues := p.queues.put who (p.queue who ++ [g]) })

/-- Queues one reward after another, up to one that is missing. -/
def addAll (who : Text) : List (Option Grantable) → Payout → Except NoReward Unit × Payout
  | [], p => (.ok (), p)
  | g :: gs, p => match p.add who g with
    | (.ok (), p) => addAll who gs p
    | (.error e, p) => (.error e, p)

/-- Grants every reward, and logs those that did not arrive in full. -/
def grantEach (sv : Services) (who : Text) :
    List Grantable → World → Journal → Except Fault Bool × World × Journal
  | [], w, j => (.ok true, w, j)
  | g :: gs, w, j =>
    match g.grant sv who w with
    | (true, w) => grantEach sv who gs w j
    | (false, w) => match g.canonical with
      | .error f => (.error f, w, j)
      | .ok name =>
        let j := j.log .warning ("Failed to grant " ++ name ++ " to " ++ who)
        let (rest, w, j) := grantEach sv who gs w j
        (rest.map fun _ => false, w, j)

/-- Pays out what is queued for a recipient, at most once. A fault leaves the payout unmarked. -/
def pay (sv : Services) (who : Text) (p : Payout) (w : World) (j : Journal) :
    Except Fault Bool × Payout × World × Journal :=
  if p.isPaid who then
    (.ok false, p, w, j.log .debug (who ++ " has already been rewarded"))
  else match p.queue who with
    | [] => (.ok false, p, w, j)
    | gs => match grantEach sv who gs w j with
      | (.error f, w, j) => (.error f, p, w, j)
      | (.ok all, w, j) =>
        (.ok all, { p with paid := who :: p.paid }, w,
          j.log .info ("Granted " ++ Text.numeral gs.length ++ " rewards to " ++ who))

end Payout

end Rewards
