import Rewards.Registry

/-! Reading a descriptor token by token, each token as whatever kind the caller asks for. -/

namespace Rewards

namespace TokenQueue

/-- Reads the next token, which is used up whether or not it can be read. -/
def readNext {α : Type} (read : Text → Except Failure α) (q : TokenQueue) :
    Except Failure α × TokenQueue :=
  match q.next with
  | (.ok t, q') => (read t, q')
  | (.error r, q') => (.error r, q')

/-- Reads all tokens that are left, up to the first that fails. -/
def readRest {α : Type} (read : Text → Except Failure α) (q : TokenQueue) :
    Except Failure (List α) × TokenQueue :=
  let (as, left) := go q.left
  (as, ⟨left⟩)
where
  go : List Text → Except Failure (List α) × List Text
    | [] => (.ok [], [])
    | t :: ts => match read t with
      | .error f => (.error f, ts)
      | .ok a =>
        let (as, left) := go ts
        (as.map (a :: ·), left)

def nextItem (q : TokenQueue) : Except Failure Item × TokenQueue :=
  q.readNext fun t => Item.read (some t)

def nextCurrency (q : TokenQueue) : Except Failure Float × TokenQueue :=
  q.readNext fun t => Currency.read (some t)

def nextPermission (q : TokenQueue) : Except Failure Text × TokenQueue :=
  q.readNext fun t => Permission.read (some t)

def nextEffect (q : TokenQueue) : Except Failure Effect × TokenQueue :=
  q.readNext fun t => Effect.read (some t)

def nextAs (shared r : Registry) (k : Kind) (q : TokenQueue) :
    Except Failure Grantable × TokenQueue :=
  q.readNext (r.readAs shared k)

/-- What a client asks for while it reads a descriptor. -/
inductive Ask where
  | hasNext
  | next
  | rest
  | item
  | currency
  | permission
  | effect
  | as (k : Kind)

inductive Reply where
  | flag (b : Bool)
  | one (g : Except Failure Grantable)
  | all (gs : Except Failure (List Grantable))

def single {α : Type} (wrap : α → Leaf) (p : Except Failure α × TokenQueue) : Reply × TokenQueue :=
  (.one (p.1.map fun a => .leaf (wrap a)), p.2)

def reply (shared r : Registry) (q : TokenQueue) : Ask → Reply × TokenQueue
  | .hasNext => (.flag q.hasNext, q)
  | .next => let (g, q') := q.readNext (dispatch shared r); (.one g, q')
  | .rest => let (gs, q') := q.readRest (dispatch shared r); (.all gs, q')
  | .item => single .item q.nextItem
  | .currency => single .currency q.nextCurrency
  | .permission => single .permission q.nextPermission
  | .effect => single .effect q.nextEffect
  | .as k => let (g, q') := q.nextAs shared r k; (.one g, q')

/-- The replies to all that a client asks for, one after the other. -/
def replies (shared r : Registry) (q : TokenQueue) : List Ask → List Reply
  | [] => []
  | a :: as => let (p, q') := q.reply shared r a; p :: q'.replies shared r as

end TokenQueue

end Rewards
