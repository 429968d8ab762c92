import Rewards.Label

/-! Permission nodes: `#arena.vip`, `perm:arena.vip`. Any text that is not blank is a node. -/

namespace Rewards.Permission

open Text

def label : Label := ⟨some "p(erm(ission))", some "#"⟩

def opening : Opening := ⟨(Keyword.ofText? "p(erm(ission))".toList).getD .done, some '#'⟩

def ofBody (body : Text) : Except Failure Text :=
  if (trim body).isEmpty then .error (.refused (.lack .permission)) else .ok (trim body)

def read (text : Option Text) : Except Failure Text := do
  let t ← Subject.permission.require text
  ofBody (opening.strip (trim t))

def canonical (node : Text) : Text := "perm:".toList ++ node

end Rewards.Permission
