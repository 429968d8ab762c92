import Rewards.Display.Table
import Rewards.Grantable
import Rewards.Load.Error
import Rewards.Settings

/-! The output of a command, and how a command ends. -/

namespace Rewards

/-- Why a command is broken off. -/
inductive Crash where
  | settings (e : SettingsError)
  | bytes (bad : BadBytes)
  | fault (f : Fault)
  /-- A style is closed that is not open. -/
  | markup
  deriving DecidableEq, Repr

inductive Ending where
  | exit (code : Nat)
  /-- The arguments spell no command. -/
  | usage
  | crash (c : Crash)
  deriving DecidableEq, Repr

/-- The exit code that tells how a command has ended. -/
def Ending.code : Ending → Nat
  | exit code => code
  | usage => 2
  | crash _ => 1

/-- A computation that writes, and that may end the command. -/
abbrev Session (α : Type) := ExceptT Ending (StateM Text) α

namespace Session

def finish {α : Type} (e : Ending) : Session α := throw e

def write (t : Text) : Session Unit := modify (· ++ t)

def ofFault {α : Type} : Except Fault α → Session α
  | .ok a => pure a
  | .error f => finish (.crash (.fault f))

/-- Writes text that is given in markup. -/
def writeMarkup (markup : Text) : Session Unit :=
  match Display.Markup.render? markup with
  | some t => write (Display.printed t)
  | none => finish (.crash .markup)

def writeTable (t : Display.Table) : Session Unit :=
  match t.render? with
  | some t => write t
  | none => finish (.crash .markup)

/-- Ends the command because of an error. -/
def fail {α : Type} (message : Text) : Session α := do
  writeMarkup ("[bold red]Error:[/bold red] " ++ Display.Markup.escaped message)
  finish (.exit 1)

def run (x : Session Unit) : Text × Ending :=
  match Id.run (StateT.run (ExceptT.run x) []) with
  | (.ok (), output) => (output, .exit 0)
  | (.error e, output) => (output, e)

end Session

open Display (Table)

mutual

/-- The rows for a grantable; what a group contains stands further in. -/
def Grantable.rows (depth : Nat) : Grantable → Except Fault (List (List Text))
  | .leaf l => do return [← cells depth l.kindName l.display l.canonical]
  | .group gs => do
    let row ← cells depth "Group" (Grantable.group gs).display (Grantable.group gs).canonical
    return row :: (← Grantable.rowsAll (depth + 1) gs)
where
  cells (depth : Nat) (kind : Text) (display canonical : Except Fault Text) :
      Except Fault (List Text) := do
    let escaped (t : Text) := Display.Markup.escaped t
    return [Display.blanks (2 * depth) ++ kind, escaped (← display), escaped (← canonical)]

def Grantable.rowsAll (depth : Nat) : List Grantable → Except Fault (List (List Text))
  | [] => .ok []
  | g :: gs => return (← Grantable.rows depth g) ++ (← Grantable.rowsAll depth gs)

end

/-- Writes grantables as a table, if there are any. -/
def Session.writeGrantables (title : Text) (gs : List Grantable) : Session Unit :=
  if gs.isEmpty then writeMarkup "[dim]No rewards.[/dim]"
  else do
    let rows ← ofFault (Grantable.rowsAll 0 gs)
    writeTable ⟨title, [⟨"Kind", .left, false⟩, ⟨"Value", .left, true⟩,
      ⟨"Canonical", .left, true⟩], rows⟩

/-- Writes what was left out of a reward file, counted from 1. -/
def Session.writeProblems (problems : List Text) : Session Unit :=
  writeTable ⟨"Skipped entries", [⟨"#", .right, true⟩, ⟨"Problem", .left, true⟩],
    problems.zipIdx.map fun (p, i) => [Text.numeral (i + 1), Display.Markup.escaped p]⟩

end Rewards
