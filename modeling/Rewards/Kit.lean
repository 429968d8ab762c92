import Rewards.Load.Journal
import Rewards.Cursor

/-! Item stacks for kits and chests. Entries that cannot be read are logged and left out. -/

namespace Rewards.Kit

open Text

/-- The stack of the first token. -/
def stack (text : Option Text) (j : Journal) : Except Fault (Option Stack) × Journal :=
  match text with
  | none | some [] => (.ok none, j)
  | some t =>
    let first : Except Failure Item := match TokenQueue.ofText t with
      | .error f => .error (.refused (.group f))
      | .ok q => q.nextItem.1
    match first with
    | .ok i => (.ok (some i.toStack), j)
    | .error (.refused r) =>
      (.ok none, j.log .error ("Invalid item " ++ t.quoted ++ ": " ++ r.message))
    | .error (.broken f) => (.error f, j)

/-- The stacks of the tokens that are items. -/
def itemStacks : List Text → Journal → Except Fault (List Stack) × Journal
  | [], j => (.ok [], j)
  | t :: ts, j => match Item.read (some t) with
    | .ok i =>
      let (ss, j) := itemStacks ts j
      (ss.map (i.toStack :: ·), j)
    | .error (.refused r) => itemStacks ts (j.log .error ("Skipping item: " ++ r.message))
    | .error (.broken f) => (.error f, j)

/-- The stacks of all tokens of a descriptor. -/
def stacksOfText (text : Text) (j : Journal) : Except Fault (List Stack) × Journal :=
  if text.isEmpty then (.ok [], j)
  else match tokens text with
    | .ok ts => itemStacks ts j
    | .error f => (.ok [], j.log .error ("Invalid item list " ++ text.quoted ++ ": " ++ f.message))

/-- Lines are the parts of one descriptor. -/
def stacksOfLines (lines : List Text) (j : Journal) : Except Fault (List Stack) × Journal :=
  stacksOfText (joined ", ".toList lines) j

end Rewards.Kit
