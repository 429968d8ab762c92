import Rewards.Text.Digit

/-!
Why a reading fails. A `Refusal` finds fault with the text or the kind at hand, and lenient readers
skip what it refuses; a `Fault` is a limit that no reader may skip.
-/

namespace Rewards

def Text.quoted (t : Text) : Text := '\'' :: t ++ ['\'']

/-- Readers that tell an absent text from an empty one. -/
inductive Subject where
  | input | group | currency | permission | effect
  deriving DecidableEq, Repr

def Subject.name : Subject → Text
  | input => "Input"
  | group => "Group"
  | currency => "Currency value"
  | permission => "Permission"
  | effect => "Effect"

/-- A value is required and there is none. -/
inductive Lack where
  | absent (what : Subject)
  | exhausted
  | token (given : Option Text)
  | item (given : Option Text)
  | currency
  | permission
  | effect
  | amplifier
  | duration
  deriving DecidableEq, Repr

def Lack.message : Lack → Text
  | absent what => what.name ++ " cannot be None"
  | exhausted => "No more tokens in input"
  | token _ => "Token cannot be empty"
  | item _ => "Item cannot be empty"
  | currency => "Currency value cannot be empty"
  | permission => "The empty string is not a valid permission"
  | effect => "Effect cannot be empty"
  | amplifier => "Amplifier cannot be empty"
  | duration => "Duration cannot be empty"

def Lack.token? : Lack → Option Text
  | token given | item given => given
  | currency | permission | effect => some []
  | _ => none

/-- A parenthesis of a descriptor stands where it may not. -/
inductive GroupFlaw where
  | strayClose (position : Nat) (text : Text)
  | unclosed (text : Text)
  | trailing (extra group : Text)
  deriving DecidableEq, Repr

def GroupFlaw.message : GroupFlaw → Text
  | strayClose position text =>
    "Unmatched close parenthesis at position " ++ Text.numeral position ++ ": " ++ text.quoted
  | unclosed text => "Unmatched open parenthesis: " ++ text.quoted
  | trailing extra group => "Unexpected " ++ extra.quoted ++ " after group " ++ group.quoted

def GroupFlaw.token : GroupFlaw → Text
  | strayClose _ text | unclosed text => text
  | trailing extra group => group ++ extra

/-- What a part of a token was to be. -/
inductive Part where
  | currency | amplifier | duration | effectSyntax | effect | itemSyntax | itemId | itemName
  | data | color | amount | enchantmentSyntax | enchantment | level | count
  deriving DecidableEq, Repr

def Part.phrase : Part → Text
  | currency => "a valid currency value"
  | amplifier => "a valid effect amplifier"
  | duration => "a valid effect duration"
  | effectSyntax => "valid effect syntax"
  | effect => "a valid effect"
  | itemSyntax => "valid item syntax"
  | itemId => "a valid item ID"
  | itemName => "a valid item name"
  | data => "a valid data value"
  | color => "a valid color"
  | amount => "a valid amount"
  | enchantmentSyntax => "valid enchantment syntax"
  | enchantment => "a valid enchantment ID"
  | level => "a valid enchantment level"
  | count => "a valid count"

/-- The body of a token does not fit its kind. -/
inductive ValueFlaw where
  | notA (part : Part) (text : Text)
  | currencyRange (text : Text)
  | durationZero (text : Text)
  deriving DecidableEq, Repr

def ValueFlaw.message : ValueFlaw → Text
  | notA part text => text.quoted ++ " is not " ++ part.phrase
  | currencyRange text => text.quoted ++ " is out of range for a currency value"
  | durationZero text => "Effect duration must be positive: " ++ text.quoted

def ValueFlaw.token : ValueFlaw → Text
  | notA _ text | currencyRange text | durationZero text => text

/-- Characters that no kind may claim as its symbol. -/
inductive SymbolClass where
  | alphanumeric | blank | quote | bracket | slash | separator
  deriving DecidableEq, Repr

/-- What speaks against registering a kind. -/
inductive KindFlaw where
  | noLabel (kind : Text)
  | noReader (kind : Text)
  | emptyKeyword (keyword : Option Text)
  | foreignCharacter (keyword : Text)
  | strayClose (position : Nat) (keyword : Text)
  | unclosed (position : Nat) (keyword : Text)
  | symbolLength (symbol : Text)
  | symbolTaken (as : SymbolClass) (symbol : Char)
  deriving DecidableEq, Repr

/-- The keyword, and under it a caret at the position. -/
def KindFlaw.pointed (position : Nat) (keyword : Text) : Text :=
  ":\n" ++ keyword ++ '\n' :: List.replicate position ' ' ++ ['^']

def KindFlaw.message : KindFlaw → Text
  | noLabel kind => kind ++ " has no GrantableInfo"
  | noReader kind => kind ++ " has no parse function"
  | emptyKeyword _ => "Prefix cannot be empty"
  | foreignCharacter keyword =>
    "Prefix may only contain letters, digits, '_', '.', '-' and parentheses: " ++ keyword
  | strayClose position keyword => "Unmatched close parenthesis" ++ pointed position keyword
  | unclosed position keyword => "Unmatched open parenthesis" ++ pointed position keyword
  | symbolLength symbol => "Symbol must be a single character: " ++ symbol.quoted
  | symbolTaken .alphanumeric c => "Alpha-numeric symbols are not supported: " ++ [c]
  | symbolTaken .blank _ => "Whitespace is not a valid parser symbol"
  | symbolTaken .quote c => "Quotes and ticks are invalid parser symbols: " ++ [c]
  | symbolTaken .bracket c =>
    "Parentheses, brackets, and braces are invalid parser symbols: " ++ [c]
  | symbolTaken .slash c => "Slashes and pipes are invalid parser symbols: " ++ [c]
  | symbolTaken .separator c => "Separators are invalid parser symbols: " ++ [c]

def KindFlaw.token? : KindFlaw → Option Text
  | noLabel t | noReader t | foreignCharacter t | strayClose _ t | unclosed _ t
  | symbolLength t => some t
  | emptyKeyword t => t
  | symbolTaken _ c => some [c]

inductive Refusal where
  | lack (l : Lack)
  | group (f : GroupFlaw)
  | value (f : ValueFlaw)
  /-- No kind claims the token, and as an item it has the flaw. -/
  | unknown (token : Text) (flaw : ValueFlaw)
  | kind (f : KindFlaw)
  deriving DecidableEq, Repr

def Refusal.message : Refusal → Text
  | lack l => l.message
  | group f => f.message
  | value f => f.message
  | unknown token flaw => token.quoted ++ " is not a known reward: " ++ flaw.message
  | kind f => f.message

/-- The text at fault, if it is known. -/
def Refusal.token? : Refusal → Option Text
  | lack l => l.token?
  | group f => some f.token
  | value f => some f.token
  | unknown token _ => some token
  | kind f => f.token?

inductive Fault where
  /-- A number to read has too many digits. -/
  | longNumeral (digits : Nat)
  /-- A number to write would have too many digits. -/
  | longNumber
  /-- A number to read in some base has no digits. -/
  | noDigits (base : Nat)
  | unknownUnit (unit : Char)
  | notANumber
  | infinite
  deriving DecidableEq, Repr

/-- The most digits that a whole number may have in a text. -/
def maxDigits : Nat := 4300

def Fault.message : Fault → Text
  | longNumeral digits => limit ++ ": value has " ++ Text.numeral digits ++ " digits; " ++ remedy
  | longNumber => limit ++ "; " ++ remedy
  | noDigits base => "invalid literal for int() with base " ++ Text.numeral base ++ ": ''"
  | unknownUnit unit => Text.quoted [unit]
  | notANumber => "cannot convert float NaN to integer"
  | infinite => "cannot convert float infinity to integer"
where
  limit : Text :=
    "Exceeds the limit (" ++ Text.numeral maxDigits ++ " digits) for integer string conversion"
  remedy : Text := "use sys.set_int_max_str_digits() to increase the limit"

inductive Failure where
  | refused (r : Refusal)
  | broken (f : Fault)
  deriving DecidableEq, Repr

def Failure.message : Failure → Text
  | refused r => r.message
  | broken f => f.message

instance : Coe Refusal Failure := ⟨.refused⟩

instance : Coe Fault Failure := ⟨.broken⟩

def refuse {α : Type} (part : Part) (t : Text) : Except Failure α :=
  .error (.refused (.value (.notA part t)))

/-- How many problems a document of a given type has. -/
def countProblems (type : Text) (n : Nat) : Text :=
  Text.numeral n ++ (if n = 1 then " validation error for " else " validation errors for ").toList
    ++ type

/-- The text that a reader needs. -/
def Subject.require (s : Subject) : Option Text → Except Failure Text
  | some t => .ok t
  | none => .error (.refused (.lack (.absent s)))

/-- The number that at most `maxDigits` digits write. -/
def Text.natural (digits : Text) : Except Fault Nat :=
  if maxDigits < digits.length then .error (.longNumeral digits.length) else .ok (number digits)

/-- The digits of an integer, if there are at most `maxDigits`. -/
def Text.written (n : Int) : Except Fault Text :=
  if maxDigits < (numeral n.natAbs).length then .error .longNumber else .ok (integer n)

end Rewards
