import Rewards.Command.Run

/-! The command line: reads files and variables, runs the command and writes what it says. -/

open Rewards

/-- What stands at a path; where it is no file that can be read, it counts as a directory. -/
def readEntry (path : Text) : IO (Option Folder.Entry) := do
  try
    return some (.file (← IO.FS.readBinFile (String.ofList path)).toList)
  catch
    | .noFileOrDirectory .. => return none
    | _ => return some .directory

/-- The variables of the process, from the system's list of them. -/
def readEnvironment : IO (Assoc Text Text) := do
  let list ← try IO.FS.readFile "/proc/self/environ" catch _ => pure ""
  return (Text.pieces '\x00' list.toList).filterMap fun line =>
    match Text.cut '=' line with
    | (name, some value) => some (name, value)
    | _ => none

def reportEnding (e : Ending) : IO Unit :=
  match e with
  | .exit _ => pure ()
  | .usage => IO.eprintln "Usage: rewards [-v] parse|descriptor|file ..."
  | .crash (.settings e) => IO.eprintln (String.ofList e.message)
  | .crash (.bytes bad) => IO.eprintln (String.ofList bad.message)
  | .crash (.fault f) => IO.eprintln (String.ofList f.message)
  | .crash .markup => IO.eprintln "A closing tag has nothing to close."

def main (arguments : List String) : IO UInt32 := do
  let settingsFile := match ← readEntry Settings.fileName with
    | some (.file content) => some content
    | _ => none
  let invocation : Invocation :=
    ⟨arguments.map String.toList, ← readEnvironment, settingsFile⟩
  let entry ← match invocation.path? with
    | some path => readEntry path.toText
    | none => pure none
  let report := invocation.run entry
  IO.print (String.ofList report.output)
  reportEnding report.ending
  return report.ending.code.toUInt32
