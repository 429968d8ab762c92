import Rewards.Registry

/-! Kinds of clients whose grantables keep the body that they were read from. -/

namespace Rewards

open Text

/-- Which bodies a kind accepts. -/
inductive BodyRule where
  | any
  | digits
  deriving DecidableEq, Repr

namespace BodyRule

def accepts : BodyRule → Text → Bool
  | any, _ => true
  | digits, body => Catalog.isNumeral (trim body)

/-- The reader `name` of a kind. -/
def reader (rule : BodyRule) (kind name : Text) : BodyReader := .own fun body =>
  if rule.accepts body then .ok (.leaf (.custom ⟨kind, name, body⟩)) else refuse .count body

end BodyRule

end Rewards
