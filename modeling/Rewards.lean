import Rewards.Assoc
import Rewards.Catalog.Key
import Rewards.Catalog.Tables
import Rewards.Command
import Rewards.Command.Run
import Rewards.Command.Session
import Rewards.Currency
import Rewards.Cursor
import Rewards.Custom
import Rewards.Decimal.Binary
import Rewards.Decimal.Notation
import Rewards.Decimal.Reading
import Rewards.Decimal.Shortest
import Rewards.Display.Emoji
import Rewards.Display.Line
import Rewards.Display.Markup
import Rewards.Display.Table
import Rewards.Display.Width
import Rewards.Document.Json
import Rewards.Document.Place
import Rewards.Document.Value
import Rewards.Document.Yaml
import Rewards.Document.Yaml.Cursor
import Rewards.Document.Yaml.Lexeme
import Rewards.Document.Yaml.Node
import Rewards.Document.Yaml.Plain
import Rewards.Document.Yaml.Scalar
import Rewards.Effect
import Rewards.Effect.Duration
import Rewards.Failure
import Rewards.File.Folder
import Rewards.File.Path
import Rewards.Grantable
import Rewards.Grantable.Literal
import Rewards.Host
import Rewards.Item
import Rewards.Keyword
import Rewards.Kit
import Rewards.Label
import Rewards.Level
import Rewards.Load.Arena
import Rewards.Load.Descriptor
import Rewards.Load.Error
import Rewards.Load.File
import Rewards.Load.Journal
import Rewards.Load.Schema
import Rewards.Main
import Rewards.Outcome
import Rewards.Pattern
import Rewards.Payout
import Rewards.Permission
import Rewards.Proofs.Accepted
import Rewards.Proofs.Arena
import Rewards.Proofs.Assoc
import Rewards.Proofs.Attempt
import Rewards.Proofs.Canonical
import Rewards.Proofs.Catalog
import Rewards.Proofs.Catalog.Spelling
import Rewards.Proofs.Claimed
import Rewards.Proofs.Closed
import Rewards.Proofs.Containment
import Rewards.Proofs.Currency
import Rewards.Proofs.Cursor
import Rewards.Proofs.Decimal.Binary
import Rewards.Proofs.Decimal.Notation
import Rewards.Proofs.Decimal.Reading
import Rewards.Proofs.Decimal.Rounding
import Rewards.Proofs.Decimal.Shortest
import Rewards.Proofs.Dispatch
import Rewards.Proofs.Dispatch.Direct
import Rewards.Proofs.Dispatch.Order
import Rewards.Proofs.Dispatch.Outside
import Rewards.Proofs.Dispatch.Single
import Rewards.Proofs.Document.Json
import Rewards.Proofs.Effect
import Rewards.Proofs.Effect.Accepted
import Rewards.Proofs.Effect.Duration
import Rewards.Proofs.Effect.Endless
import Rewards.Proofs.Effect.Fault
import Rewards.Proofs.Fault
import Rewards.Proofs.Group
import Rewards.Proofs.Group.Independence
import Rewards.Proofs.Host
import Rewards.Proofs.Inventory
import Rewards.Proofs.Item
import Rewards.Proofs.Item.Accepted
import Rewards.Proofs.Item.Enchantments
import Rewards.Proofs.Item.Fault
import Rewards.Proofs.Item.Spelling
import Rewards.Proofs.Keyword
import Rewards.Proofs.Keyword.Caret
import Rewards.Proofs.Keyword.Check
import Rewards.Proofs.Label
import Rewards.Proofs.Leaf
import Rewards.Proofs.Leaf.Accepted
import Rewards.Proofs.Load.Account
import Rewards.Proofs.Load.File
import Rewards.Proofs.Load.Lenient
import Rewards.Proofs.Load.Run
import Rewards.Proofs.Load.Schema
import Rewards.Proofs.Load.Strictness
import Rewards.Proofs.Load.Wave
import Rewards.Proofs.Opening
import Rewards.Proofs.Outcome
import Rewards.Proofs.Parentheses
import Rewards.Proofs.Pattern
import Rewards.Proofs.Pattern.Spellings
import Rewards.Proofs.Payout.Loop
import Rewards.Proofs.Payout.Once
import Rewards.Proofs.Payout.Queueing
import Rewards.Proofs.Payout.Whole
import Rewards.Proofs.Prefix
import Rewards.Proofs.Readable
import Rewards.Proofs.Registry
import Rewards.Proofs.Registry.Directed
import Rewards.Proofs.Registry.Extension
import Rewards.Proofs.Registry.Separation
import Rewards.Proofs.RoundTrip
import Rewards.Proofs.Stack
import Rewards.Proofs.Text.Cutting
import Rewards.Proofs.Text.Numeral
import Rewards.Proofs.Text.Stretch
import Rewards.Proofs.Text.Trimming
import Rewards.Proofs.Text.Utf8
import Rewards.Proofs.Token.Gaps
import Rewards.Proofs.Token.Late
import Rewards.Proofs.Token.Layout
import Rewards.Proofs.Token.Nesting
import Rewards.Proofs.Token.Partners
import Rewards.Proofs.Token.Rounds
import Rewards.Proofs.Token.Spacing
import Rewards.Proofs.Token.Splitting
import Rewards.Proofs.World
import Rewards.Registry
import Rewards.Settings
import Rewards.Settings.EnvFile
import Rewards.Stack
import Rewards.Text.Alphanumeric
import Rewards.Text.Basic
import Rewards.Text.Blank
import Rewards.Text.Case
import Rewards.Text.Digit
import Rewards.Text.Printable
import Rewards.Text.Quoted
import Rewards.Text.Utf8
import Rewards.Token
import Rewards.World
import Rewards.World.Inventory
import Rewards.Proofs.Effect.Sum
import Rewards.Proofs.Load.Key
import Rewards.Proofs.Command.Verdict
import Rewards.Proofs.Command.Show
