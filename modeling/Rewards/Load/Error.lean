import Rewards.Document.Json
import Rewards.File.Path
import Rewards.Load.Journal
import Rewards.Text.Utf8

/-! Why loading rewards stops. -/

namespace Rewards

/-- One step on the way to a value inside a document. -/
inductive Step where
  | key (name : Text)
  | index (n : Int)
  deriving DecidableEq, Repr

/-- What is wrong with a value of a document. -/
inductive SchemaFlaw where
  | missing | notText | notInteger | unreadableInteger | longInteger | fractional | notFinite
  | notMapping | notList | notRecord
  | wavePositive (wave : Int)
  deriving DecidableEq, Repr

/-- The text of a flaw that has one. -/
def SchemaFlaw.message? : SchemaFlaw → Option Text
  | wavePositive wave => some ("Value error, ".toList ++ match Text.written wave with
    | .ok digits => "Wave numbers must be positive, got ".toList ++ digits
    | .error f => f.message)
  | _ => none

structure Problem where
  path : List Step
  flaw : SchemaFlaw
  deriving DecidableEq, Repr

inductive LoadError where
  | refused (context : Text) (cause : Refusal)
  | duplicateArena (name : Text)
  | schema (problems : List Problem)
  | notFound (path : Path)
  | format (suffix : Text)
  | json (path : Path) (flaw : Json.Flaw) (place : Place)
  | yaml (path : Path)
  | directory (path : Path)
  | notMapping (path : Path)
  | bytes (bad : BadBytes)
  | broken (f : Fault)
  deriving DecidableEq, Repr

def duplicateMessage (name : Text) : Text := "Duplicate arena " ++ name.quoted

def Place.describe (p : Place) : Text :=
  "line " ++ Text.numeral p.line ++ " column " ++ Text.numeral p.column ++
    " (char " ++ Text.numeral p.offset ++ ")"

def LoadError.message : LoadError → Text
  | refused context cause => context ++ ": " ++ cause.message
  | duplicateArena name => duplicateMessage name
  | schema problems => "Invalid reward file: " ++ countProblems "RewardFile" problems.length
  | notFound path => "Reward file not found: " ++ path.toText
  | format suffix => "Unsupported file format: " ++ suffix ++ ". Use .yaml, .yml, or .json"
  | json path flaw place =>
    unreadable path ++ ": " ++ flaw.message ++ ": " ++ place.describe
  | yaml path => unreadable path
  | directory path => unreadable path ++ ": [Errno 21] Is a directory: " ++ path.toText.literal
  | notMapping path => "Reward file must contain a mapping: " ++ path.toText
  | bytes bad => bad.message
  | broken f => f.message
where
  unreadable (path : Path) : Text := "Failed to parse " ++ path.toText

/-- Loading goes on with its journal even where it fails. -/
abbrev Loading (α : Type) := ExceptT LoadError (StateM Journal) α

def Loading.run {α : Type} (x : Loading α) (j : Journal) : Except LoadError α × Journal :=
  Id.run (StateT.run (ExceptT.run x) j)

def Loading.log (level : Level) (message : Text) : Loading Unit := modify (·.log level message)

end Rewards
