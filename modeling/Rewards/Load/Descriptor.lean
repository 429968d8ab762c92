import Rewards.Load.Error
import Rewards.Registry

/-!
Reading descriptors that may have flaws. A lenient reader keeps a message for every token that is
refused and goes on; a strict one stops at the first. A fault stops both.
-/

namespace Rewards

namespace Loading

/-- What to do about a refusal in a given context. -/
def refusal (strict : Bool) (context : Text) (r : Refusal) : Loading Unit :=
  if strict then throw (.refused context r)
  else modify (·.skip "reward" (context ++ ": " ++ r.message))

/-- The values of the tokens that can be read. -/
def values {α : Type} (read : Text → Except Failure α) (strict : Bool) (context : Text) :
    List Text → Loading (List α)
  | [] => pure []
  | t :: ts => do
    match read t with
    | .ok a => return a :: (← values read strict context ts)
    | .error (.refused r) => do
      refusal strict context r
      values read strict context ts
    | .error (.broken f) => throw (.broken f)

/-- The values of a descriptor's tokens; a descriptor that cannot be split has none. -/
def descriptor {α : Type} (read : Text → Except Failure α) (strict : Bool) (context text : Text) :
    Loading (List α) := do
  match tokens text with
  | .ok ts => values read strict context ts
  | .error f =>
    refusal strict context (.group f)
    return []

/-- A descriptor that may be absent. -/
def descriptor? {α : Type} (read : Text → Except Failure α) (strict : Bool) (context : Text) :
    Option Text → Loading (List α)
  | some text => descriptor read strict context text
  | none => do
    refusal strict context (.lack (.absent .input))
    return []

end Loading

end Rewards
