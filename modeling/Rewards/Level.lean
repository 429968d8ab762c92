import Rewards.Text.Basic

/-! How much a log record matters. -/

namespace Rewards

inductive Level where
  | debug | info | warning | error | critical
  deriving DecidableEq, Repr

namespace Level

def name : Level → Text
  | debug => "DEBUG"
  | info => "INFO"
  | warning => "WARNING"
  | error => "ERROR"
  | critical => "CRITICAL"

def named? (t : Text) : Option Level :=
  [debug, info, warning, error, critical].find? fun l => l.name = t

theorem named?_eq_some_iff {t : Text} {l : Level} : named? t = some l ↔ t = l.name := by
  constructor
  · intro h
    simpa [eq_comm] using List.find?_some h
  · rintro rfl
    cases l <;> decide

end Level

end Rewards
