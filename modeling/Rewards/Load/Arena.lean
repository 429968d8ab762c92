import Rewards.Load.Descriptor
import Rewards.Load.Schema

/-! Loading the rewards of arenas: every descriptor of a template is read, in a fixed order. -/

namespace Rewards

structure Arena where
  name : Text
  every : List (Int × List Grantable)
  after : List (Int × List Grantable)
  completion : List Grantable
  classItems : List (Text × List Item)
  deriving Repr

namespace Loading

/-- Wave tables are read in the order of the waves. -/
def byWave (table : WaveTexts) : WaveTexts := table.mergeSort fun a b => a.1 ≤ b.1

/-- Reads the descriptor of each entry; `context` tells where it stands, and may have too many
digits to be written. -/
def entries {κ α : Type} (read : Text → Except Failure α) (strict : Bool)
    (context : κ → Except Fault Text) : List (κ × Text) → Loading (List (κ × List α))
  | [] => pure []
  | e :: es => do
    match context e.1 with
    | .ok place => do
      let values ← descriptor read strict place e.2
      return (e.1, values) :: (← entries read strict context es)
    | .error f => throw (.broken f)

def waveContext (name kind : Text) (wave : Int) : Except Fault Text :=
  (Text.written wave).map fun digits => name ++ ' ' :: kind ++ ' ' :: digits

def completionContext (name : Text) : Text := name ++ " completion".toList

def classContext (name className : Text) : Text := name ++ " class ".toList ++ className

/-- A completion text that is empty is as good as none. -/
def completion (read : Text → Except Failure Grantable) (strict : Bool) (t : ArenaTemplate) :
    Loading (List Grantable) :=
  match t.completion with
  | none | some [] => pure []
  | some text => descriptor read strict (completionContext t.name) text

def arena (read : Text → Except Failure Grantable) (strict : Bool) (t : ArenaTemplate) :
    Loading Arena := do
  let every ← entries read strict (waveContext t.name "every") (byWave t.every)
  let after ← entries read strict (waveContext t.name "after") (byWave t.after)
  let completion ← completion read strict t
  let classItems ← entries (fun token => Item.read (some token)) strict
    (fun c => .ok (classContext t.name c)) t.classItems
  log .debug ("Loaded arena " ++ t.name ++ ": " ++ Text.numeral every.length ++ " every, " ++
    Text.numeral after.length ++ " after, " ++ Text.numeral classItems.length ++ " classes")
  return ⟨t.name, every, after, completion, classItems⟩

/-- Loads the arenas after those in `done`; the first arena of a name is the one that counts. -/
def arenas (read : Text → Except Failure Grantable) (strict : Bool) :
    (done : List Text) → List ArenaTemplate → Loading (List Arena)
  | _, [] => pure []
  | done, t :: ts =>
    if done.contains t.name then do
      if strict then throw (.duplicateArena t.name)
      modify (·.skip "arena" (duplicateMessage t.name))
      arenas read strict done ts
    else do
      let a ← arena read strict t
      return a :: (← arenas read strict (t.name :: done) ts)

/-- The arenas of a document. -/
def rewards (read : Text → Except Failure Grantable) (strict : Bool) (v : Value) :
    Loading (List Arena) :=
  match Schema.checkFile v with
  | .error problems => throw (.schema problems)
  | .ok ts => arenas read strict [] ts

end Loading

namespace Arena

/-- The rewards for reaching a wave: first those of every interval that divides it, by ascending
interval, then those of the wave itself. Waves count from 1. -/
def rewardsForWave (a : Arena) (wave : Int) : List Grantable :=
  if wave < 1 then []
  else
    let due := (a.every.mergeSort fun x y => x.1 ≤ y.1).filter fun e => 1 ≤ e.1 && wave % e.1 == 0
    due.flatMap (·.2) ++ (a.after.lookup wave).getD []

end Arena

end Rewards
