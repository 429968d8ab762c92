import Rewards.Document.Place
import Rewards.Failure
import Rewards.Level
import Rewards.Settings.EnvFile
import Rewards.Text.Case
import Rewards.Text.Utf8

/-!
Settings, from the environment and from a file beside it. A variable of the environment counts more
than the file, and the case of its name does not count.
-/

namespace Rewards

structure Settings where
  rewardsFile : Text
  strict : Bool
  logLevel : Level
  debug : Bool
  deriving DecidableEq, Repr

/-- Why a setting has no value. -/
inductive SettingFlaw where
  | notBool | notLevel
  deriving DecidableEq, Repr

structure SettingProblem where
  setting : Text
  flaw : SettingFlaw
  deriving DecidableEq, Repr

inductive SettingsError where
  | invalid (problems : List SettingProblem)
  | bytes (bad : BadBytes)
  deriving DecidableEq, Repr

def SettingsError.message : SettingsError → Text
  | invalid problems => countProblems "Settings" problems.length
  | bytes bad => bad.message

namespace Settings

def default : Settings := ⟨"rewards.yaml", false, .info, false⟩

/-- What is logged; all of it in order to find errors. -/
def effectiveLogLevel (s : Settings) : Level := if s.debug then .debug else s.logLevel

def fileName : Text := ".env"

def trueWords : List Text := ["1", "on", "t", "true", "y", "yes"]

def falseWords : List Text := ["0", "off", "f", "false", "n", "no"]

/-- Words are known in any case of their letters. -/
def readBool? (t : Text) : Option Bool :=
  let word := t.map Char.toLower
  if word ∈ trueWords then some true else if word ∈ falseWords then some false else none

def variableName (setting : Text) : Text := "rewards_" ++ setting

/-- The last value that is given to a name, whatever its case. -/
def lookup {α : Type} (values : Assoc Text α) (setting : Text) : Option α :=
  (values.reverse.find? fun e => Text.lower e.1 = variableName setting).map (·.2)

/-- The value of a setting, or what is wrong with it. -/
def read {α : Type} (value? : Text → Option Text) (setting : Text) (default : α)
    (flaw : SettingFlaw) (parse? : Text → Option α) : Except SettingProblem α :=
  match value? setting with
  | none => .ok default
  | some t => match parse? t with
    | some a => .ok a
    | none => .error ⟨setting, flaw⟩

def problem? {α : Type} : Except SettingProblem α → Option SettingProblem
  | .ok _ => none
  | .error p => some p

def ofValues (value? : Text → Option Text) : Except SettingsError Settings :=
  let rewardsFile := (value? "rewards_file").getD default.rewardsFile
  let strict := read value? "strict" default.strict .notBool readBool?
  let logLevel := read value? "log_level" default.logLevel .notLevel Level.named?
  let debug := read value? "debug" default.debug .notBool readBool?
  match strict, logLevel, debug with
  | .ok strict, .ok logLevel, .ok debug => .ok ⟨rewardsFile, strict, logLevel, debug⟩
  | s, l, d => .error (.invalid ([problem? s, problem? l, problem? d].filterMap id))

/-- The settings that hold in an environment, with the content of the file if there is one. -/
def load (environment : Assoc Text Text) (file : Option Bytes) : Except SettingsError Settings := do
  let fromFile ← match file with
    | none => pure []
    | some content =>
      let text ← (Utf8.decode content).mapError .bytes
      pure (EnvFile.values environment (Text.unifyLineEnds text))
  ofValues fun setting => match lookup environment setting with
    | some value => some value
    | none => (lookup fromFile setting).join

end Settings

end Rewards
