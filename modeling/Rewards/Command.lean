import Rewards.File.Path

/-! The commands of the command line, and how arguments spell them. -/

namespace Rewards

inductive Command where
  /-- Shows what a descriptor contains. -/
  | parse (descriptor : Text)
  /-- Writes a descriptor in its canonical form. -/
  | canonical (descriptor : Text)
  /-- Looks for faults in a reward file. -/
  | check (path : Option Path) (strict : Option Bool) (showRewards : Bool)
  deriving DecidableEq, Repr

namespace Command

/-- Options without a value: what each spelling does to what has been chosen so far. -/
abbrev Options (σ : Type) := List (Text × (σ → σ))

/-- What one argument that starts with a hyphen chooses. Letters may share a hyphen. -/
def choose? {σ : Type} (options : Options σ) (chosen : σ) (argument : Text) : Option σ :=
  match options.lookup argument, argument with
  | some act, _ => some (act chosen)
  | none, '-' :: '-' :: _ => none
  | none, letters =>
    letters.tail.foldlM (fun s letter => (options.lookup ['-', letter]).map (· s)) chosen

def isOption (argument : Text) : Bool := argument.head? == some '-' && argument.length > 1

/-- What the options among the arguments choose, and the arguments that are none. After two hyphens
nothing is an option; nor is anything after the first other argument, unless they may be mixed. -/
def separate? {σ : Type} (options : Options σ) (mixed : Bool) (chosen : σ) :
    List Text → Option (σ × List Text)
  | [] => some (chosen, [])
  | argument :: arguments =>
    if argument = ['-', '-'] then some (chosen, arguments)
    else if isOption argument then do
      separate? options mixed (← choose? options chosen argument) arguments
    else if mixed then do
      let (chosen, rest) ← separate? options mixed chosen arguments
      return (chosen, argument :: rest)
    else some (chosen, argument :: arguments)

/-- What a command is about. -/
inductive Topic where
  | quick | descriptor | file
  deriving DecidableEq, Repr

def Topic.named? (word : Text) : Option Topic :=
  if word = "parse".toList then some quick
  else if word = "descriptor".toList then some descriptor
  else if word = "file".toList then some file
  else none

/-- The start of the command line: options for all commands, and a topic. -/
structure Opening where
  verbose : Bool
  topic : Topic
  arguments : List Text
  deriving DecidableEq, Repr

def opening? (arguments : List Text) : Option Opening := do
  let raise (_ : Bool) : Bool := true
  let options : Options Bool := [("--verbose".toList, raise), ("-v".toList, raise)]
  match ← separate? options false false arguments with
  | (_, []) => none
  | (verbose, word :: arguments) => return ⟨verbose, ← Topic.named? word, arguments⟩

/-- The only argument, where there are no options. -/
def single? (arguments : List Text) : Option Text := do
  match ← separate? ([] : Options Unit) true () arguments with
  | ((), [argument]) => some argument
  | _ => none

structure CheckChoice where
  strict : Option Bool
  showRewards : Bool

def check? (arguments : List Text) : Option Command := do
  let options : Options CheckChoice := [
    ("--strict".toList, fun c => { c with strict := some true }),
    ("--lenient".toList, fun c => { c with strict := some false }),
    ("--show".toList, fun c => { c with showRewards := true })]
  match ← separate? options true ⟨none, false⟩ arguments with
  | (c, []) => some (.check none c.strict c.showRewards)
  | (c, [path]) => some (.check (some (Path.ofText path)) c.strict c.showRewards)
  | _ => none

/-- The command of a topic. A topic of several commands wants the name of one first. -/
def ofTopic? (topic : Topic) (arguments : List Text) : Option Command :=
  match topic with
  | .quick => (single? arguments).map .parse
  | topic => do
    let (_, words) ← separate? ([] : Options Unit) false () arguments
    match topic, words.map String.ofList with
    | .descriptor, "parse" :: _ => (single? words.tail).map .parse
    | .descriptor, "canonical" :: _ => (single? words.tail).map .canonical
    | .file, "check" :: _ => check? words.tail
    | _, _ => none

end Command

end Rewards
