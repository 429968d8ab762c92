import Rewards.File.Path
import Rewards.Text.Utf8

/-! Files in a folder, and what a path means that starts there. -/

namespace Rewards

inductive Folder.Entry where
  | directory
  | file (content : Bytes)
  deriving DecidableEq, Repr

/-- What stands at which parts; a directory that holds something need not be listed. -/
abbrev Folder := List (List Text × Folder.Entry)

namespace Folder

def at? (f : Folder) (place : List Text) : Option Entry :=
  match f.lookup place with
  | some e => some e
  | none =>
    if place = [] ∨ f.any (fun e => place.isPrefixOf e.1) then some .directory else none

/-- Goes on from a place inside the folder. Of what is above the folder only the directories are
known. -/
def follow (f : Folder) (place : List Text) : List Text → Option Entry
  | [] => f.at? place
  | part :: parts =>
    if f.at? place = some .directory then
      if part ≠ ['.', '.'] then f.follow (place ++ [part]) parts
      else if place = [] then
        if parts.all (· = ['.', '.']) then some .directory else none
      else f.follow place.dropLast parts
    else none

def get? (f : Folder) (p : Path) : Option Entry :=
  if p.root = [] then f.follow [] p.parts
  else if p.parts = [] then some .directory else none

end Folder

end Rewards
