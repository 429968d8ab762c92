import Rewards.Grantable
import Rewards.Token

/-!
Kinds of grantables and the registry that a token is dispatched with. The kinds of clients come
first, in the order in which they were registered, then currency, permission and effect; a token
that no kind claims is an item, and a group in parentheses is dispatched token by token.
-/

namespace Rewards

open Text

/-- How a kind reads a body. A group has the registry that all clients share read its tokens. -/
inductive BodyReader where
  | own (read : Text → Except Failure Grantable)
  | group

/-- A part of a kind that may be missing, or of no use. -/
inductive Slot (α : Type) where
  | missing
  | unusable
  | given (a : α)

def Slot.orElse {α : Type} (s t : Slot α) : Slot α :=
  match s with
  | missing => t
  | s => s

/-- A kind is known by its name. -/
structure Kind where
  name : Text
  label : Slot Label
  ofBody : Slot BodyReader
  read : Slot BodyReader

namespace Kind

def single {α : Type} (wrap : α → Leaf) (f : Text → Except Failure α) : BodyReader :=
  .own fun t => (f t).map fun a => .leaf (wrap a)

def currency : Kind where
  name := "Currency"
  label := .given Currency.label
  ofBody := .given (single .currency Currency.ofBody)
  read := .given (single .currency fun t => Currency.read (some t))

def permission : Kind where
  name := "Permission"
  label := .given Permission.label
  ofBody := .given (single .permission Permission.ofBody)
  read := .given (single .permission fun t => Permission.read (some t))

def effect : Kind where
  name := "Effect"
  label := .given Effect.label
  ofBody := .given (single .effect Effect.ofBody)
  read := .given (single .effect fun t => Effect.read (some t))

def item : Kind where
  name := "Item"
  label := .missing
  ofBody := .missing
  read := .given (single .item fun t => Item.read (some t))

def group : Kind where
  name := "Group"
  label := .missing
  ofBody := .missing
  read := .given .group

end Kind

structure Entry where
  kind : Text
  label : Label
  opening : Opening
  reader : BodyReader
  order : Nat

/-- The label and the reader that are given win over those of the kind. -/
def Entry.ofKind (k : Kind) (label : Slot Label) (reader : Slot BodyReader) (order : Nat) :
    Except KindFlaw Entry :=
  match label.orElse k.label, reader.orElse (k.ofBody.orElse k.read) with
  | .given l, .given r => l.opening.map fun o => ⟨k.name, l, o, r, order⟩
  | .given _, _ => .error (.noReader k.name)
  | _, _ => .error (.noLabel k.name)

/-- The registered kinds of clients. -/
structure Registry where
  custom : List Entry

namespace Registry

def empty : Registry := ⟨[]⟩

def core : List Entry := [
  ⟨"Currency", Currency.label, Currency.opening, Kind.single .currency Currency.ofBody, 0⟩,
  ⟨"Permission", Permission.label, Permission.opening,
    Kind.single .permission Permission.ofBody, 1⟩,
  ⟨"Effect", Effect.label, Effect.opening, Kind.single .effect Effect.ofBody, 2⟩]

/-- All entries, in the order in which they are tried. -/
def entries (r : Registry) : List Entry := r.custom ++ core

def entry? (r : Registry) (kind : Text) : Option Entry := r.entries.find? (·.kind = kind)

def isRegistered (r : Registry) (kind : Text) : Bool := (r.entry? kind).isSome

/-- Adds a kind that is new and has no flaw; anything else leaves the registry as it is. -/
def register (r : Registry) (k : Kind) (label : Slot Label) (reader : Slot BodyReader) :
    Except KindFlaw Entry × Registry :=
  match r.entry? k.name with
  | some e => (.ok e, r)
  | none => match Entry.ofKind k label reader r.custom.length with
    | .ok e => (.ok e, ⟨r.custom ++ [e]⟩)
    | .error f => (.error f, r)

/-- The first entry that claims the token. -/
def find? (r : Registry) (token : Text) : Option Entry := r.entries.find? (·.opening.claims token)

end Registry

/-- The text without an opening and a closing parenthesis at its ends. -/
def ungrouped (s : Text) : Text := dropClose (dropOpen (trim s))
where
  dropOpen : Text → Text
    | '(' :: s => trim s
    | s => s
  dropClose (s : Text) : Text := if s.getLast? = some ')' then trim s.dropLast else s

theorem dropClose_length_le (s : Text) : (ungrouped.dropClose s).length ≤ s.length := by
  unfold ungrouped.dropClose
  split
  · have := trim_length_le s.dropLast
    simp only [List.length_dropLast] at this
    omega
  · exact Nat.le_refl _

theorem dropOpen_length_le (s : Text) : (ungrouped.dropOpen s).length ≤ s.length := by
  unfold ungrouped.dropOpen
  split
  · rename_i s
    have := trim_length_le s
    simp only [List.length_cons]; omega
  · exact Nat.le_refl _

theorem ungrouped_length_le (s : Text) : (ungrouped s).length ≤ s.length :=
  Nat.le_trans (dropClose_length_le _) (Nat.le_trans (dropOpen_length_le _) (trim_length_le s))

theorem ungrouped_length_lt {s : Text} (h : (trim s).head? = some '(') :
    (ungrouped s).length < s.length := by
  have h1 := dropClose_length_le (ungrouped.dropOpen (trim s))
  have h2 : (ungrouped.dropOpen (trim s)).length < (trim s).length := by
    cases ht : trim s with
    | nil => simp [ht] at h
    | cons c t =>
      simp only [ht, List.head?_cons, Option.some.injEq] at h
      subst h
      have := trim_length_le t
      simp only [ungrouped.dropOpen, List.length_cons]; omega
  have h3 := trim_length_le s
  unfold ungrouped
  omega

/-- A token that no kind claims is not known if it is no item either. -/
def unknownItem (token : Text) : Failure → Failure
  | .refused (.value f) => .refused (.unknown token f)
  | f => f

theorem Registry.strip_length {r : Registry} {t : Text} {e : Entry} (h : r.find? t = some e) :
    (e.opening.strip t).length < t.length := by
  have := List.find?_some h
  obtain ⟨b, hb⟩ := Option.isSome_iff_exists.1 this
  simpa [Opening.strip, hb] using Opening.body?_length hb

mutual

/-- The grantable that a token stands for. `shared` is the registry of readers that are given
none. -/
def dispatch (shared r : Registry) (token : Text) : Except Failure Grantable :=
  if (trim token).isEmpty then .error (.refused (.lack (.token (some token))))
  -- No kind can claim a token in parentheses.
  else if h : (trim (trim token)).head? = some '(' then
    have := ungrouped_length_lt h
    have := trim_length_le token
    (dispatchAll shared r (ungrouped (trim token))).map .group
  else match h : r.find? (trim token) with
    | some e => match e.reader with
      | .own read => read (e.opening.strip (trim token))
      | .group =>
        have := Registry.strip_length h
        have := ungrouped_length_le (e.opening.strip (trim token))
        have := trim_length_le token
        (dispatchAll shared shared (ungrouped (e.opening.strip (trim token)))).map .group
    | none => (Item.ofToken (trim token)).map (.leaf ∘ .item) |>.mapError (unknownItem (trim token))
termination_by 2 * token.length

/-- The grantables of all tokens of a descriptor. -/
def dispatchAll (shared r : Registry) (text : Text) : Except Failure (List Grantable) :=
  match h : tokens text with
  | .error f => .error (.refused (.group f))
  | .ok ts => Outcome.each (fun t =>
      have := tokens_length h t.1 t.2
      dispatch shared r t.1) ts.attach
termination_by 2 * text.length + 1

end

/-- A group from its token, whose parentheses may be missing. -/
def readGroup (shared r : Registry) (text : Text) : Except Failure Grantable :=
  (dispatchAll shared r (ungrouped text)).map .group

def BodyReader.run (shared : Registry) : BodyReader → Text → Except Failure Grantable
  | own read, body => read body
  | group, body => readGroup shared shared body

namespace Registry

/-- Reads a token whose kind is known by its entry. -/
def readEntry (shared : Registry) (e : Entry) (token : Text) : Except Failure Grantable :=
  e.reader.run shared (e.opening.strip token)

/-- The token without the opening of a kind, which need not be registered. -/
def trimFor (r : Registry) (k : Kind) (token : Text) : Except KindFlaw Text :=
  match r.entry? k.name, k.label with
  | some e, _ => .ok (e.opening.strip token)
  | none, .given l => l.opening.map (·.strip token)
  | none, _ => .ok token

/-- Reads a token as one of a given kind. -/
def readAs (r shared : Registry) (k : Kind) (token : Text) : Except Failure Grantable :=
  if k.name = Kind.group.name then readGroup shared r token
  else if k.name = Kind.item.name then (Item.read (some token)).map (.leaf ∘ .item)
  else match r.entry? k.name, k.read with
    | some e, _ => readEntry shared e (trim token)
    | none, .given reader =>
      match r.trimFor k (trim token) with
      | .ok body => reader.run shared body
      | .error f => .error (.refused (.kind f))
    | none, _ => .error (.refused (.kind (.noReader k.name)))

end Registry

end Rewards
