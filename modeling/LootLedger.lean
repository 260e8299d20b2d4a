import LootLedger.Archive.Basic
import LootLedger.Archive.Cache
import LootLedger.Archive.Document
import LootLedger.Calendar.Date
import LootLedger.Calendar.Instant
import LootLedger.Category.BaseName
import LootLedger.Category.Basic
import LootLedger.Category.Classify
import LootLedger.Category.Equipment
import LootLedger.Category.MapName
import LootLedger.Cli.Command
import LootLedger.Cli.Failure
import LootLedger.Cli.Host
import LootLedger.Cli.Log
import LootLedger.Cli.Log.Directive
import LootLedger.Cli.Machine
import LootLedger.Cli.Options
import LootLedger.Cli.Paint
import LootLedger.Cli.Report.Categories
import LootLedger.Cli.Report.Diagnostics
import LootLedger.Cli.Report.Filters
import LootLedger.Cli.Report.Matches
import LootLedger.Cli.Report.Prices
import LootLedger.Cli.Report.Rates
import LootLedger.Cli.Report.Settings
import LootLedger.Cli.Run
import LootLedger.Decimal.Binary64
import LootLedger.Decimal.Rounding
import LootLedger.Decimal.Shortest
import LootLedger.Decimal.Stepwise
import LootLedger.Disk.Access
import LootLedger.Disk.Basic
import LootLedger.Disk.Path
import LootLedger.Entries
import LootLedger.Filter.Action
import LootLedger.Filter.Action.Reader
import LootLedger.Filter.Arguments
import LootLedger.Filter.Comparison
import LootLedger.Filter.Condition
import LootLedger.Filter.Condition.Reader
import LootLedger.Filter.Document
import LootLedger.Filter.Line
import LootLedger.Filter.Matching
import LootLedger.Filter.Problem
import LootLedger.Filter.Rule
import LootLedger.Filter.Sockets
import LootLedger.Filter.Verdict
import LootLedger.HostName.Basic
import LootLedger.HostName.Label
import LootLedger.HostName.Mapping
import LootLedger.HostName.Punycode
import LootLedger.Http.Address
import LootLedger.Http.Authority
import LootLedger.Http.Escape
import LootLedger.Http.Path
import LootLedger.Http.Redirect
import LootLedger.Http.Retry
import LootLedger.Http.Scheme
import LootLedger.Http.Script
import LootLedger.Http.Snapshot
import LootLedger.Http.Status
import LootLedger.Http.Url
import LootLedger.Item.Basic
import LootLedger.Item.Document
import LootLedger.Item.Listing
import LootLedger.Item.Rarity
import LootLedger.Json.Decode
import LootLedger.Json.Printer
import LootLedger.Json.Reader
import LootLedger.Json.Text
import LootLedger.Json.Value
import LootLedger.Main
import LootLedger.Price.Document
import LootLedger.Price.Identifier
import LootLedger.Price.Names
import LootLedger.Price.Section
import LootLedger.Price.Table
import LootLedger.Price.Worth
import LootLedger.Proofs.Archive.Transparency
import LootLedger.Proofs.Calendar.VersionKey
import LootLedger.Proofs.Filter.Arguments
import LootLedger.Proofs.Filter.Decision
import LootLedger.Proofs.Filter.Line
import LootLedger.Proofs.Filter.Muted
import LootLedger.Proofs.Filter.Oddity
import LootLedger.Proofs.Filter.Rendering.Action
import LootLedger.Proofs.Filter.Rendering.Condition
import LootLedger.Proofs.Filter.Rendering.Document
import LootLedger.Proofs.Filter.Run
import LootLedger.Proofs.Filter.Statement
import LootLedger.Proofs.Filter.WellFormed
import LootLedger.Proofs.Outcome
import LootLedger.Proofs.Text.Layout
import LootLedger.Proofs.Text.Numeral
import LootLedger.Proofs.Text.Words
import LootLedger.Proofs.Toml.Document
import LootLedger.Proofs.Toml.Text
import LootLedger.Selection
import LootLedger.Settings.Basic
import LootLedger.Settings.Document
import LootLedger.Settings.Places
import LootLedger.Store.Basic
import LootLedger.Text.Alphanumeric
import LootLedger.Text.Blank
import LootLedger.Text.Columns
import LootLedger.Text.Combining
import LootLedger.Text.Composition
import LootLedger.Text.Composition.Table
import LootLedger.Text.Direction
import LootLedger.Text.EditDistance
import LootLedger.Text.Frequency
import LootLedger.Text.Hexadecimal
import LootLedger.Text.Joining
import LootLedger.Text.Mark
import LootLedger.Text.Number
import LootLedger.Text.Quoted
import LootLedger.Text.Runs
import LootLedger.Text.Split
import LootLedger.Text.Unseen
import LootLedger.Toml.Printer
import LootLedger.Toml.Reader
import LootLedger.Toml.Scalar
import LootLedger.Toml.Text
import LootLedger.Toml.Value
import LootLedger.Proofs.Filter.Accounting
import LootLedger.Proofs.Filter.Concatenation
import LootLedger.Proofs.Filter.Provenance
import LootLedger.Proofs.Filter.Split
import LootLedger.Proofs.Filter.Tokens
import LootLedger.Proofs.Filter.LayoutEdit
import LootLedger.Proofs.Category.Rules
import LootLedger.Proofs.Category.Map
import LootLedger.Proofs.Http.Settling
import LootLedger.Proofs.Price.Precedence
import LootLedger.Proofs.Price.Failure
import LootLedger.Proofs.Price.Monotone
import LootLedger.Proofs.Archive.Holdings
import LootLedger.Proofs.Json.Quoted
import LootLedger.Proofs.Json.RoundTrip
import LootLedger.Proofs.Calendar.Timestamp
import LootLedger.Proofs.Archive.Document
import LootLedger.Proofs.Json.Record
import LootLedger.Proofs.Item.Document
import LootLedger.Proofs.Item.Members
import LootLedger.Proofs.Http.Exhaustion
import LootLedger.Proofs.Filter.Opening
import LootLedger.Proofs.Cli.Rows
import LootLedger.Proofs.Disk.Path
import LootLedger.Proofs.Disk.Frame
import LootLedger.Proofs.Cli.Quiet
import LootLedger.Proofs.Settings.Document
import LootLedger.Proofs.Store.Saving
import LootLedger.Proofs.Price.Document
import LootLedger.Proofs.Cli.Session
import LootLedger.Proofs.Cli.Setting
import LootLedger.Proofs.Cli.Agreement
import LootLedger.Proofs.Item.Delve
import LootLedger.Proofs.Item.Sockets
import LootLedger.Proofs.Http.Pause
import LootLedger.Proofs.Text.Frequency
import LootLedger.Proofs.Filter.SocketCount
import LootLedger.Proofs.Filter.OpenBlock
import LootLedger.Proofs.Filter.Attached
import LootLedger.Proofs.Filter.Quotation
import LootLedger.Proofs.Filter.SocketMultiset
import LootLedger.Proofs.Text.Marker
import LootLedger.Proofs.Text.Pieces
import LootLedger.Proofs.Category.MapName
import LootLedger.Proofs.Price.Series
import LootLedger.Proofs.Price.MapAffix
import LootLedger.Proofs.Price.Quality
import LootLedger.Proofs.Filter.SocketToken
import LootLedger.Proofs.Filter.SocketOrder
import LootLedger.Proofs.Filter.SocketKeywords
import LootLedger.Proofs.Text.Ending
import LootLedger.Proofs.Price.Distinct
import LootLedger.Proofs.Category.Quality
import LootLedger.Proofs.Price.Helmet
import LootLedger.Proofs.Price.Stack
import LootLedger.Proofs.Price.Relic
import LootLedger.Proofs.Category.LongestBase
import LootLedger.Proofs.Price.BaseType
import LootLedger.Proofs.Archive.Newest
import LootLedger.Proofs.Price.InEffect
import LootLedger.Proofs.Filter.Refusal
import LootLedger.Proofs.Filter.Suggestion
import LootLedger.Proofs.Text.EditDistance
