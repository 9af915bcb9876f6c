import SignalReplay.Command.Arguments
import SignalReplay.Command.Basic
import SignalReplay.Command.Run
import SignalReplay.Command.Summary
import SignalReplay.Configuration.Basic
import SignalReplay.Configuration.Toml
import SignalReplay.Csv
import SignalReplay.Decimal.Basic
import SignalReplay.Decimal.Binary64
import SignalReplay.Decimal.Fixed
import SignalReplay.Decimal.Layout
import SignalReplay.Decimal.Numeral
import SignalReplay.Decimal.Quantity
import SignalReplay.Decimal.Rounding
import SignalReplay.Decimal.Shortest
import SignalReplay.Files.Fault
import SignalReplay.Files.Loading
import SignalReplay.Files.Path
import SignalReplay.Files.Store
import SignalReplay.Files.Tree
import SignalReplay.Fingerprint.Blake3
import SignalReplay.Fingerprint.Dataset
import SignalReplay.Fingerprint.LittleEndian
import SignalReplay.Json.Node
import SignalReplay.Json.Record
import SignalReplay.Json.Token
import SignalReplay.Json.Value
import SignalReplay.LoadError
import SignalReplay.Main
import SignalReplay.Market.Candle
import SignalReplay.Market.CandleTable
import SignalReplay.Market.Series
import SignalReplay.Metrics.Basic
import SignalReplay.Metrics.Corpus
import SignalReplay.Metrics.Histogram
import SignalReplay.Metrics.Summary
import SignalReplay.Outcome.Basic
import SignalReplay.Outcome.Lines
import SignalReplay.Partition
import SignalReplay.Proofs.Binary64.Fields
import SignalReplay.Proofs.Binary64.Negation
import SignalReplay.Proofs.Binary64.Order
import SignalReplay.Proofs.Binary64.Sign
import SignalReplay.Proofs.Market.Series
import SignalReplay.Proofs.Sorting
import SignalReplay.Replay.Artifacts
import SignalReplay.Replay.Basic
import SignalReplay.Replay.Document
import SignalReplay.Replay.Files
import SignalReplay.Replay.Markdown
import SignalReplay.Report.GroupKey
import SignalReplay.Report.Groups
import SignalReplay.Report.Pairing
import SignalReplay.Schema.Configuration
import SignalReplay.Schema.Market
import SignalReplay.Schema.Outcome
import SignalReplay.Schema.Replay
import SignalReplay.Schema.Report
import SignalReplay.Signal.Basic
import SignalReplay.Signal.Direction
import SignalReplay.Signal.Lines
import SignalReplay.Tagging
import SignalReplay.Text.Blank
import SignalReplay.Text.CaseTable
import SignalReplay.Text.HiddenTable
import SignalReplay.Text.Lines
import SignalReplay.Text.Lowercase
import SignalReplay.Text.Names
import SignalReplay.Text.Quoted
import SignalReplay.Text.Utf8
import SignalReplay.Time.Calendar
import SignalReplay.Time.Fields
import SignalReplay.Time.Instant
import SignalReplay.Time.Pattern
import SignalReplay.Time.Scan
import SignalReplay.Time.Timestamp
import SignalReplay.Toml.Document
import SignalReplay.Toml.Scalar
import SignalReplay.Toml.Scan
import SignalReplay.Toml.Text
import SignalReplay.Toml.Value
import SignalReplay.Proofs.Tagging.Excursion
import SignalReplay.Proofs.Partition
import SignalReplay.Proofs.Tagging.Replay
import SignalReplay.Proofs.Report.Groups
import SignalReplay.Proofs.Report.Pairing
import SignalReplay.Proofs.Replay.Run
import SignalReplay.Proofs.Fingerprint.Delimited
import SignalReplay.Proofs.Fingerprint.Dataset
import SignalReplay.Proofs.Decimal.Digits
import SignalReplay.Proofs.Decimal.Nearest
import SignalReplay.Proofs.Decimal.Shortest
import SignalReplay.Proofs.Json.Number
import SignalReplay.Proofs.Json.String
import SignalReplay.Proofs.Text.Lines
import SignalReplay.Proofs.Json.Text
import SignalReplay.Proofs.Json.Visible
import SignalReplay.Proofs.Time.Calendar
import SignalReplay.Proofs.Time.StandardForm
import SignalReplay.Proofs.Json.Record
import SignalReplay.Proofs.Outcome.Lines
import SignalReplay.Proofs.Tagging.History
import SignalReplay.Proofs.Replay.Conservation
import SignalReplay.Proofs.Market.CandleTable
import SignalReplay.Proofs.Signal.Lines
import SignalReplay.Proofs.Replay.Rearrangement
import SignalReplay.Proofs.Json.Pretty
import SignalReplay.Proofs.Json.Prefix
import SignalReplay.Proofs.Replay.Document
import SignalReplay.Proofs.Replay.Artifacts
import SignalReplay.Proofs.Reading
import SignalReplay.Proofs.Signal.Reading
import SignalReplay.Proofs.Text.Blank
import SignalReplay.Proofs.Market.Reading
import SignalReplay.Proofs.Time.WrittenOffset
import SignalReplay.Proofs.Command.Agreement
import SignalReplay.Proofs.Binary64.Rounding
import SignalReplay.Proofs.Binary64.Cut
import SignalReplay.Proofs.Binary64.Arithmetic
import SignalReplay.Proofs.Binary64.Bounds
import SignalReplay.Proofs.Binary64.Size
import SignalReplay.Proofs.Binary64.Difference
import SignalReplay.Proofs.Binary64.Undefined
import SignalReplay.Proofs.Decimal.Value
import SignalReplay.Proofs.Decimal.Rounding
import SignalReplay.Proofs.Decimal.Fixed
import SignalReplay.Proofs.Decimal.Places
import SignalReplay.Proofs.Tagging.Prices
import SignalReplay.Proofs.Tagging.Risk
import SignalReplay.Proofs.Metrics.Size
import SignalReplay.Proofs.Metrics.Multiples
import SignalReplay.Proofs.Metrics.Readings
import SignalReplay.Proofs.Metrics.Streaks
import SignalReplay.Proofs.Metrics.Drawdown
import SignalReplay.Proofs.Metrics.Histogram
import SignalReplay.Proofs.Replay.Namesakes
import SignalReplay.Proofs.Replay.Reloading
import SignalReplay.Proofs.Replay.Figures
import SignalReplay.Proofs.Tagging.Levels
import SignalReplay.Proofs.Tagging.Reflection
import SignalReplay.Proofs.Files.Directories
import SignalReplay.Proofs.Replay.FailedSaves
import SignalReplay.Proofs.Report.Join
import SignalReplay.Proofs.Report.Rearrangement
import SignalReplay.Proofs.Text.ByteOrder
import SignalReplay.Proofs.Binary64.TotalOrder
import SignalReplay.Proofs.Report.Ranking
import SignalReplay.Proofs.Json.Members
import SignalReplay.Proofs.Json.Spelling
import SignalReplay.Proofs.Signal.Identifiers
import SignalReplay.Proofs.Fingerprint.Signals
import SignalReplay.Proofs.Json.Token
import SignalReplay.Proofs.Text.LineLayout
import SignalReplay.Proofs.Signal.Layout
import SignalReplay.Proofs.Json.Literal
import SignalReplay.Proofs.Json.Exchange
import SignalReplay.Proofs.Signal.Prices
import SignalReplay.Proofs.Csv
import SignalReplay.Proofs.Market.Columns
import SignalReplay.Proofs.Metrics.Summary
import SignalReplay.Proofs.Metrics.Separation
import SignalReplay.Proofs.Text.Pieces
import SignalReplay.Proofs.Replay.Tables
import SignalReplay.Proofs.Replay.GroupTable
