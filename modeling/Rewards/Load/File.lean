import Rewards.Document.Yaml
import Rewards.File.Folder
import Rewards.Load.Arena

/-! Loading the rewards of a file, whose suffix tells how it is written. -/

namespace Rewards

inductive Format where
  | json | yaml
  deriving DecidableEq, Repr

namespace Format

def ofSuffix? (suffix : Text) : Option Format :=
  if suffix = ".json".toList then some json
  else if suffix = ".yaml".toList ∨ suffix = ".yml".toList then some yaml
  else none

/-- Why a document has no value: its bytes are no text, the text is not well formed, or a fault. -/
inductive Stop where
  | bytes (bad : BadBytes)
  | malformed
  | fault (f : Fault)
  deriving DecidableEq, Repr

/-- How the bytes of a YAML document are read. -/
abbrev YamlReader := Bytes → Except Stop Value

def pieceSize : Nat := 8192

/-- YAML is taken in piece by piece. -/
def yamlDocument : YamlReader := fun content => do
  let t ← (Utf8.decodePieces [] (Utf8.pieces pieceSize content)).mapError .bytes
  (Yaml.document (Text.unifyLineEnds t)).mapError fun
    | .malformed => .malformed
    | .fault f => .fault f

def value (readYaml : YamlReader) (f : Format) (path : Path) (content : Bytes) :
    Except LoadError Value :=
  match f with
  | json => do
    let t ← ((Utf8.decode content).map Text.unifyLineEnds).mapError .bytes
    (Json.document t).mapError fun
      | .flaw f left => .json path f (Json.place t left)
      | .fault f => .broken f
  | yaml => (readYaml content).mapError fun
    | .bytes bad => .bytes bad
    | .malformed => .yaml path
    | .fault f => .broken f

end Format

namespace Loading

/-- A file without a value is one without arenas. -/
def asMapping (path : Path) : Value → Except LoadError Value
  | .null => .ok (.mapping [])
  | .mapping es => .ok (.mapping es)
  | _ => .error (.notMapping path)

/-- What the file at a path says. Its suffix counts before what stands there is read. -/
def content (readYaml : Format.YamlReader) (path : Path) :
    Option Folder.Entry → Except LoadError Value
  | none => .error (.notFound path)
  | some entry => match Format.ofSuffix? (Text.lower path.suffix) with
    | none => .error (.format (Text.lower path.suffix))
    | some f => match entry with
      | .directory => .error (.directory path)
      | .file bytes => do asMapping path (← f.value readYaml path bytes)

/-- The arenas of the file at a path, with a reader of YAML. -/
def fileBy (readYaml : Format.YamlReader) (read : Text → Except Failure Grantable) (strict : Bool)
    (path : Path) (entry : Option Folder.Entry) : Loading (List Arena) := do
  let v ← ExceptT.mk (pure (content readYaml path entry))
  log .info ("Loading rewards from " ++ path.toText)
  let arenas ← rewards read strict v
  let skipped := (← get).errors.length
  if skipped ≠ 0 then
    log .warning (Text.numeral skipped ++ " reward entries skipped in " ++ path.toText)
  return arenas

/-- The arenas of the file at a path. -/
def file (read : Text → Except Failure Grantable) (strict : Bool) (path : Path)
    (entry : Option Folder.Entry) : Loading (List Arena) :=
  fileBy Format.yamlDocument read strict path entry

end Loading

end Rewards
