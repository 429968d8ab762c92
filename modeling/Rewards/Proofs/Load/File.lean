import Rewards.Load.File
import Rewards.Proofs.Load.Lenient
import Rewards.Proofs.Load.Strictness
import Rewards.Proofs.Load.Wave
import Rewards.Proofs.Text.Utf8

/-!
Loading of files. What is wrong with a file is reported as an error of loading, unless its bytes are no
text, or a fault stops the reader of the document or the loader of its rewards.
-/

namespace Rewards

open Text

namespace Format

variable {readYaml : YamlReader} {f : Format} {path : Path} {content : Bytes}

end Format

namespace Loading

section Escape

variable {α : Type}

variable (read : Text → Except Failure Grantable)

/-- The journal with which the rewards of a file start. -/
def start (path : Path) : Journal := Journal.empty.log .info ("Loading rewards from " ++ path.toText)

variable {readYaml : Format.YamlReader} {path : Path} {f : Format}

end Escape

section Json

variable {read : Text → Except Failure Grantable} {path : Path}

end Json

end Loading

end Rewards
