import Rewards.Document.Yaml.Lexeme

/-!
The tree of a YAML document. An alias stands for the node with its anchor further up in the text.
-/

namespace Rewards.Yaml

inductive Node where
  | scalar (tag : Option Text) (isPlain : Bool) (text : Text)
  | sequence (tag : Option Text) (elements : List Node)
  | mapping (tag : Option Text) (entries : List (Node × Node))
  | anchored (name : Text) (node : Node)
  | aliasOf (name : Text)
  deriving Repr, Inhabited

namespace Node

def empty : Node := scalar none true []

/-- The anchor and the tag in front of a node, in either order. -/
def properties : List Lexeme → Option Text × Option Text × List Lexeme
  | .anchor a :: .tag t :: ls => (some a, some t, ls)
  | .tag t :: .anchor a :: ls => (some a, some t, ls)
  | .anchor a :: ls => (some a, none, ls)
  | .tag t :: ls => (none, some t, ls)
  | ls => (none, none, ls)

def withAnchor (a : Option Text) (n : Node) : Node :=
  match a with
  | some name => anchored name n
  | none => n

/-- A node may be left out before some lexemes. -/
def isAbsent (before : List Lexeme) : List Lexeme → Bool
  | l :: _ => before.contains l
  | [] => true

mutual

/-- A node from the first lexeme on. In a block it may be a block itself, and as the value of a
block mapping a sequence that is not indented. -/
def read (inBlock unindented : Bool) : (fuel : Nat) → List Lexeme → Option (Node × List Lexeme)
  | 0, _ => none
  | n + 1, ls => match ls with
    | .aliasOf a :: ls => some (aliasOf a, ls)
    | ls => do
      let (anchor, tag, ls) := properties ls
      let (node, ls) ← content inBlock unindented tag (anchor.isSome || tag.isSome) n ls
      return (withAnchor anchor node, ls)

/-- A node after its anchor and its tag. If it has one of these it may be empty. -/
def content (inBlock unindented : Bool) (tag : Option Text) (mayBeEmpty : Bool) :
    (fuel : Nat) → List Lexeme → Option (Node × List Lexeme)
  | 0, _ => none
  | n + 1, ls =>
    let absent := if mayBeEmpty then some (scalar tag true [], ls) else none
    match ls with
    | .scalar isPlain s :: ls => some (scalar tag isPlain s, ls)
    | .flowSequence :: ls => do
      let (es, ls) ← flowElements true n ls
      return (sequence tag es, ls)
    | .flowMapping :: ls => do
      let (es, ls) ← flowEntries true n ls
      return (mapping tag es, ls)
    | .entry :: _ =>
      if unindented then do
        let (es, ls) ← bareElements n ls
        return (sequence tag es, ls)
      else absent
    | .blockSequence :: ls =>
      if inBlock then do
        let (es, ls) ← blockElements n ls
        return (sequence tag es, ls)
      else none
    | .blockMapping :: ls =>
      if inBlock then do
        let (es, ls) ← blockEntries n ls
        return (mapping tag es, ls)
      else none
    | _ => absent

/-- The elements of a block sequence and its end. -/
def blockElements : (fuel : Nat) → List Lexeme → Option (List Node × List Lexeme)
  | 0, _ => none
  | n + 1, ls => match ls with
    | .blockEnd :: ls => some ([], ls)
    | .entry :: ls => do
      let (e, ls) ← if isAbsent [.entry, .blockEnd] ls then some (empty, ls)
        else read true false n ls
      let (es, ls) ← blockElements n ls
      return (e :: es, ls)
    | _ => none

/-- The elements of a sequence without a block of its own. -/
def bareElements : (fuel : Nat) → List Lexeme → Option (List Node × List Lexeme)
  | 0, _ => none
  | n + 1, ls => match ls with
    | .entry :: ls => do
      let (e, ls) ← if isAbsent [.entry, .key, .value, .blockEnd] ls then some (empty, ls)
        else read true false n ls
      let (es, ls) ← bareElements n ls
      return (e :: es, ls)
    | ls => some ([], ls)

/-- The entries of a block mapping and its end. -/
def blockEntries : (fuel : Nat) → List Lexeme → Option (List (Node × Node) × List Lexeme)
  | 0, _ => none
  | n + 1, ls => match ls with
    | .blockEnd :: ls => some ([], ls)
    | .key :: ls => do
      let (k, ls) ← if isAbsent [.key, .value, .blockEnd] ls then some (empty, ls)
        else read true true n ls
      let (v, ls) ← blockValue n ls
      let (es, ls) ← blockEntries n ls
      return ((k, v) :: es, ls)
    | _ => none

def blockValue : (fuel : Nat) → List Lexeme → Option (Node × List Lexeme)
  | 0, _ => none
  | n + 1, ls => match ls with
    | .value :: ls =>
      if isAbsent [.key, .value, .blockEnd] ls then some (empty, ls) else read true true n ls
    | ls => some (empty, ls)

/-- The elements of a flow sequence and its end. An element may be a mapping with one entry. -/
def flowElements (first : Bool) : (fuel : Nat) → List Lexeme → Option (List Node × List Lexeme)
  | 0, _ => none
  | n + 1, ls => match ls with
    | .flowSequenceEnd :: ls => some ([], ls)
    | ls => do
      let ls ← match first, ls with
        | true, ls => some ls
        | false, .comma :: ls => some ls
        | false, _ => none
      match ls with
      | .flowSequenceEnd :: ls => some ([], ls)
      | .key :: ls => do
        let (k, ls) ← if isAbsent [.value, .comma, .flowSequenceEnd] ls then some (empty, ls)
          else read false false n ls
        let (v, ls) ← flowValue .flowSequenceEnd n ls
        let (es, ls) ← flowElements false n ls
        return (mapping none [(k, v)] :: es, ls)
      | ls => do
        let (e, ls) ← read false false n ls
        let (es, ls) ← flowElements false n ls
        return (e :: es, ls)

/-- The entries of a flow mapping and its end. A key may stand without a value. -/
def flowEntries (first : Bool) : (fuel : Nat) → List Lexeme →
    Option (List (Node × Node) × List Lexeme)
  | 0, _ => none
  | n + 1, ls => match ls with
    | .flowMappingEnd :: ls => some ([], ls)
    | ls => do
      let ls ← match first, ls with
        | true, ls => some ls
        | false, .comma :: ls => some ls
        | false, _ => none
      match ls with
      | .flowMappingEnd :: ls => some ([], ls)
      | .key :: ls => do
        let (k, ls) ← if isAbsent [.value, .comma, .flowMappingEnd] ls then some (empty, ls)
          else read false false n ls
        let (v, ls) ← flowValue .flowMappingEnd n ls
        let (es, ls) ← flowEntries false n ls
        return ((k, v) :: es, ls)
      | ls => do
        let (k, ls) ← read false false n ls
        let (es, ls) ← flowEntries false n ls
        return ((k, empty) :: es, ls)

def flowValue (last : Lexeme) : (fuel : Nat) → List Lexeme → Option (Node × List Lexeme)
  | 0, _ => none
  | n + 1, ls => match ls with
    | .value :: ls =>
      if isAbsent [.comma, last] ls then some (empty, ls) else read false false n ls
    | ls => some (empty, ls)

end

/-- The node of the only document of a text, if there is one. -/
def document? (ls : List Lexeme) : Option (Option Node) := do
  let fuel := 4 * ls.length + 4
  let (node, ls) ← match ls with
    | [.streamEnd] => return none
    | .directive :: _ | .documentStart :: _ => do
      match ls.dropWhile (· = .directive) with
      | .documentStart :: ls =>
        if isAbsent [.directive, .documentStart, .documentEnd, .streamEnd] ls then some (empty, ls)
        else read true false fuel ls
      | _ => none
    | ls => read true false fuel ls
  match ls.dropWhile (· = .documentEnd) with
  | [.streamEnd] => return some node
  | _ => none

abbrev Anchors := List (Text × Node)

mutual

/-- The node with every alias replaced. An anchor may be given only once. -/
def resolve : Node → Anchors → Option (Node × Anchors)
  | aliasOf name, as => do return (← as.lookup name, as)
  | anchored name n, as => do
    if (as.lookup name).isSome then none
    let (n, as) ← resolve n as
    return (n, (name, n) :: as)
  | scalar tag isPlain s, as => some (scalar tag isPlain s, as)
  | sequence tag es, as => do
    let (es, as) ← resolveAll es as
    return (sequence tag es, as)
  | mapping tag es, as => do
    let (es, as) ← resolveEntries es as
    return (mapping tag es, as)

def resolveAll : List Node → Anchors → Option (List Node × Anchors)
  | [], as => some ([], as)
  | n :: ns, as => do
    let (n, as) ← resolve n as
    let (ns, as) ← resolveAll ns as
    return (n :: ns, as)

def resolveEntries : List (Node × Node) → Anchors → Option (List (Node × Node) × Anchors)
  | [], as => some ([], as)
  | (k, v) :: es, as => do
    let (k, as) ← resolve k as
    let (v, as) ← resolve v as
    let (es, as) ← resolveEntries es as
    return ((k, v) :: es, as)

end

end Node

end Rewards.Yaml
