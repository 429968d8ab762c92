import Rewards.Command
import Rewards.Command.Session
import Rewards.Load.File

/-! Running a command: what it writes, how it ends, and from which level on it logs. -/

namespace Rewards

/-- What the command line is given. -/
structure Invocation where
  arguments : List Text
  environment : Assoc Text Text
  settingsFile : Option Bytes
  deriving Repr

structure Report where
  output : Text
  level : Level
  ending : Ending
  deriving Repr

namespace Command

open Session

def read : Text → Except Failure Grantable := dispatch .empty .empty

def readAll (descriptor : Text) : Session (List Grantable) :=
  match dispatchAll .empty .empty descriptor with
  | .ok gs => pure gs
  | .error (.refused r) => fail r.message
  | .error (.broken f) => finish (.crash (.fault f))

/-- Writes the rewards of an arena, but not the items of its classes. -/
def writeArena (a : Arena) : Session Unit := do
  let wave (kind : Text) (e : Int × List Grantable) : Session Unit :=
    writeGrantables (a.name ++ ": " ++ kind ++ " " ++ Text.integer e.1) e.2
  a.every.forM (wave "every")
  a.after.forM (wave "after")
  if !a.completion.isEmpty then
    writeGrantables (a.name ++ ": completion") a.completion

/-- Ends the command because a file could not be loaded. -/
def failToLoad {α : Type} : LoadError → Session α
  | .broken f => finish (.crash (.fault f))
  | .bytes bad => finish (.crash (.bytes bad))
  | e => fail e.message

/-- Checks what stands at a path. -/
def checkFile (path : Path) (entry : Option Folder.Entry) (strict showRewards : Bool) :
    Session Unit := do
  let (loaded, journal) := (Loading.file read strict path entry).run .empty
  match loaded with
  | .error e => failToLoad e
  | .ok arenas =>
    if showRewards then arenas.forM writeArena
    if !journal.errors.isEmpty then
      writeProblems journal.errors
      fail (Text.numeral journal.errors.length ++ " invalid entries in " ++ path.toText)
    writeMarkup ("[dim]" ++ Text.numeral arenas.length ++ " arenas checked[/dim]")
    writeMarkup ("[bold green]All rewards in " ++ path.toText ++ " are valid[/bold green]")

/-- The file that a command reads. -/
def path? (settings : Settings) : Command → Option Path
  | .check path _ _ => some (path.getD (Path.ofText settings.rewardsFile))
  | _ => none

/-- Runs a command; `entry` is what stands at the path that it reads. -/
def session (settings : Settings) (entry : Option Folder.Entry) : Command → Session Unit
  | .parse descriptor => do writeGrantables "Rewards" (← readAll descriptor)
  | .canonical descriptor => do
    let t ← ofFault (Grantable.describe (← readAll descriptor))
    write (Display.printed (Display.Emoji.replaced t))
  | .check path strict showRewards =>
    checkFile (path.getD (Path.ofText settings.rewardsFile)) entry (strict.getD settings.strict)
      showRewards

end Command

namespace Invocation

/-- Settings, level and command, unless that is where it ends. The settings are read once the topic
is known, and before the rest of the arguments. -/
def command (i : Invocation) : Except Report (Settings × Level × Command) :=
  match Command.opening? i.arguments with
  | none => .error ⟨[], .warning, .usage⟩
  | some o => match Settings.load i.environment i.settingsFile with
    | .error e => .error ⟨[], .warning, .crash (.settings e)⟩
    | .ok s =>
      -- From here on the level is set, however the command ends.
      let level := if o.verbose then .debug else s.effectiveLogLevel
      match Command.ofTopic? o.topic o.arguments with
      | none => .error ⟨[], level, .usage⟩
      | some c => .ok (s, level, c)

/-- The file that is read, if there is one. -/
def path? (i : Invocation) : Option Path :=
  match i.command with
  | .ok (s, _, c) => c.path? s
  | .error _ => none

/-- Runs the command line; `entry` is what stands at the path that it reads. -/
def run (i : Invocation) (entry : Option Folder.Entry) : Report :=
  match i.command with
  | .error r => r
  | .ok (s, level, c) =>
    let (output, ending) := (c.session s entry).run
    ⟨output, level, ending⟩

end Invocation

end Rewards
