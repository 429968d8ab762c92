import Rewards.Kit
import Rewards.Proofs.Load.Account
import Rewards.Proofs.Token.Lines

/-!
Kits of several lines. Their stacks are those of the lines one after another, and so are the records of
what is no item.
-/

namespace Rewards.Kit

open Text Loading

def readItem (t : Text) : Except Failure Item := Item.read (some t)

/-- What is logged about a token that is no item. -/
def skipping (e : Failure) : LogRecord := ⟨.error, "Skipping item: " ++ e.message⟩

/-- The stacks of the tokens that are items. -/
def stacksIn (text : Text) : List Stack := (valuesOf readItem text).map Item.toStack

/-- One record for each of the other tokens. -/
def recordsIn (text : Text) : List LogRecord := (failuresOf readItem text).map skipping

theorem itemStacks_eq {ts : List Text} (h : ∀ t ∈ ts, ¬Breaks (readItem t)) (j : Journal) :
    itemStacks ts j = (.ok ((ts.filterMap fun t => (readItem t).toOption).map Item.toStack),
      j.append ⟨[], (ts.filterMap fun t => failure? (readItem t)).map skipping⟩) := by
  induction ts generalizing j with
  | nil => exact congrArg (Prod.mk _) j.append_empty.symm
  | cons t ts ih =>
    obtain ⟨ht, hts⟩ := List.forall_mem_cons.1 h
    have hread : Item.read (some t) = readItem t := rfl
    rw [itemStacks, hread, List.filterMap_cons, List.filterMap_cons]
    cases hr : readItem t with
    | ok i =>
      dsimp only
      rw [ih hts]
      rfl
    | error e =>
      cases e with
      | refused r =>
        dsimp only
        rw [ih hts]
        simp [failure?, Except.toOption, Journal.append, Journal.log, skipping, Failure.message]
      | broken f => exact absurd ⟨f, hr⟩ ht

theorem itemStacks_of_read {α : Type} {text : α → Text} {item : α → Item} {as : List α}
    (h : ∀ a ∈ as, Item.read (some (text a)) = .ok (item a)) (j : Journal) :
    itemStacks (as.map text) j = (.ok (as.map fun a => (item a).toStack), j) := by
  induction as with
  | nil => rfl
  | cons a as ih =>
    obtain ⟨ha, has⟩ := List.forall_mem_cons.1 h
    rw [List.map_cons, itemStacks, ha]
    dsimp only
    rw [ih has]
    rfl

theorem stacksOfText_of_tokens {text : Text} {ts : List Text} (h : tokens text = .ok ts)
    (j : Journal) : stacksOfText text j = itemStacks ts j := by
  rw [stacksOfText]
  split
  · rename_i he
    rw [List.isEmpty_iff] at he
    rw [he, tokens_nil] at h
    cases h
    rfl
  · rw [h]

theorem stacksOfText_eq {text : Text} {ts : List Text} (hs : tokens text = .ok ts)
    (hr : ∀ t ∈ ts, ¬Breaks (readItem t)) (j : Journal) :
    stacksOfText text j = (.ok (stacksIn text), j.append ⟨[], recordsIn text⟩) := by
  rw [stacksOfText_of_tokens hs, itemStacks_eq hr, stacksIn, valuesOf, tokensOf_of_tokens hs,
    recordsIn, failuresOf_of_tokens hs]

/-- A text of a list: it can be split, no blank but spaces stands before it, and none of its tokens
makes a fault. -/
structure IsLine (l : Text) : Prop where
  splits : tokens l = .ok (tokensOf l)
  flush : Token.Flush l
  reads : ∀ t ∈ tokensOf l, ¬Breaks (readItem t)

section Lines

variable {lines : List Text} (h : ∀ l ∈ lines, IsLine l)

include h

theorem tokens_lines : tokens (joined ", ".toList lines) = .ok (lines.flatMap tokensOf) :=
  Token.tokens_joined_lines fun l hl => ⟨(h l hl).flush, (h l hl).splits⟩

theorem stacksIn_lines : stacksIn (joined ", ".toList lines) = lines.flatMap stacksIn := by
  rw [stacksIn, valuesOf, tokensOf_of_tokens (tokens_lines h), List.filterMap_flatMap,
    List.map_flatMap]
  rfl

theorem recordsIn_lines : recordsIn (joined ", ".toList lines) = lines.flatMap recordsIn := by
  rw [recordsIn, failuresOf_of_tokens (tokens_lines h), List.filterMap_flatMap, List.map_flatMap]
  apply List.flatMap_congr
  intro l hl
  rw [recordsIn, failuresOf_of_tokens (h l hl).splits]

end Lines

/-- Lines are read one by one. A list of lines gives the stacks of the first line, then those of the
second, and so on, and logs the records of the first, then those of the second, and so on, wherever
the lines end. Each line gives the stacks of its tokens that are items, and a record for each of the
others. -/
theorem lines_one_by_one {lines : List Text} (h : ∀ l ∈ lines, IsLine l) (j : Journal) :
    stacksOfLines lines j =
      (.ok (lines.flatMap stacksIn), j.append ⟨[], lines.flatMap recordsIn⟩) ∧
    ∀ l ∈ lines, stacksOfText l j = (.ok (stacksIn l), j.append ⟨[], recordsIn l⟩) := by
  refine ⟨?_, fun l hl => stacksOfText_eq (h l hl).splits (h l hl).reads j⟩
  have hreads : ∀ t ∈ lines.flatMap tokensOf, ¬Breaks (readItem t) :=
    List.forall_mem_flatMap.2 fun l hl => (h l hl).reads
  rw [stacksOfLines, stacksOfText_eq (tokens_lines h) hreads, stacksIn_lines h, recordsIn_lines h]

/-- A group and a currency among items, a line that ends in a comma and a tab, and an empty one. -/
theorem kit_of_lines :
    let lines : List Text := ["arrow:16, (bread, $1),\t", "", "  $5, bow"]
    (∀ l ∈ lines, IsLine l) ∧
      lines.flatMap stacksIn = [⟨⟨262, "ARROW"⟩, 16, 0, [], none⟩, ⟨⟨261, "BOW"⟩, 1, 0, [], none⟩] ∧
      (lines.flatMap recordsIn).length = 2 ∧
      stacksOfLines lines .empty =
        (.ok (lines.flatMap stacksIn), Journal.append .empty ⟨[], lines.flatMap recordsIn⟩) := by
  intro lines
  have h : ∀ l ∈ lines, IsLine l := by
    have hall : ∀ l ∈ lines, tokens l = .ok (tokensOf l) ∧ Token.Flush l ∧
        ∀ t ∈ tokensOf l, ¬Breaks (readItem t) := by decide +kernel
    exact fun l hl => ⟨(hall l hl).1, (hall l hl).2.1, (hall l hl).2.2⟩
  exact ⟨h, by decide +kernel, by decide +kernel, (lines_one_by_one h .empty).1⟩

end Rewards.Kit
