import Rewards.Level

/-! What a reader that carries on leaves behind: the problems it met, and the records it logged. -/

namespace Rewards

structure LogRecord where
  level : Level
  message : Text
  deriving DecidableEq, Repr

structure Journal where
  errors : List Text
  records : List LogRecord
  deriving DecidableEq, Repr

namespace Journal

def empty : Journal := ⟨[], []⟩

def log (level : Level) (message : Text) (j : Journal) : Journal :=
  { j with records := j.records ++ [⟨level, message⟩] }

/-- Keeps a problem and logs that something was skipped because of it. -/
def skip (what problem : Text) (j : Journal) : Journal :=
  { (j.log .warning ("Skipping " ++ what ++ ": " ++ problem)) with errors := j.errors ++ [problem] }

end Journal

end Rewards
