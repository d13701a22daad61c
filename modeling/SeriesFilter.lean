import SeriesFilter.Base64Url
import SeriesFilter.Calendar.Date
import SeriesFilter.Calendar.Instant
import SeriesFilter.Calendar.Scan
import SeriesFilter.Calendar.Written
import SeriesFilter.Catalog.Comparison
import SeriesFilter.Catalog.Domain
import SeriesFilter.Catalog.Field
import SeriesFilter.Catalog.Role
import SeriesFilter.Command.Arguments
import SeriesFilter.Command.Basic
import SeriesFilter.Command.Failure
import SeriesFilter.Command.Run
import SeriesFilter.Compile
import SeriesFilter.Condition.Basic
import SeriesFilter.Condition.Operand
import SeriesFilter.Decimal.Literal
import SeriesFilter.Decimal.Nearest
import SeriesFilter.Decimal.Number
import SeriesFilter.Decimal.Shortest
import SeriesFilter.Engine
import SeriesFilter.Entity
import SeriesFilter.Files
import SeriesFilter.Filter.Basic
import SeriesFilter.Filter.Json
import SeriesFilter.Filter.Location
import SeriesFilter.Json.Builder
import SeriesFilter.Json.Numeral
import SeriesFilter.Json.Reader
import SeriesFilter.Json.Scanner
import SeriesFilter.Json.Token
import SeriesFilter.Json.Tree
import SeriesFilter.Json.Value
import SeriesFilter.Main
import SeriesFilter.Page
import SeriesFilter.Plan
import SeriesFilter.Portable.Codec
import SeriesFilter.Portable.Document
import SeriesFilter.Portable.Resolve
import SeriesFilter.Predicate
import SeriesFilter.Proofs.Base64Url
import SeriesFilter.Proofs.Calendar.Days
import SeriesFilter.Proofs.Calendar.Written
import SeriesFilter.Proofs.Catalog.Numbers
import SeriesFilter.Proofs.Command.Acceptance
import SeriesFilter.Proofs.Command.Checking
import SeriesFilter.Proofs.Command.Reloading
import SeriesFilter.Proofs.Compile.Bounds
import SeriesFilter.Proofs.Compile.Clock
import SeriesFilter.Proofs.Compile.Conditions
import SeriesFilter.Proofs.Compile.Emptiness
import SeriesFilter.Proofs.Compile.Faults
import SeriesFilter.Proofs.Compile.Meaning
import SeriesFilter.Proofs.Compile.Shape
import SeriesFilter.Proofs.Condition.Answers
import SeriesFilter.Proofs.Condition.Complements
import SeriesFilter.Proofs.Condition.Days
import SeriesFilter.Proofs.Condition.Durations
import SeriesFilter.Proofs.Condition.Folding
import SeriesFilter.Proofs.Condition.Members
import SeriesFilter.Proofs.Condition.Shapes
import SeriesFilter.Proofs.Condition.TokenSets
import SeriesFilter.Proofs.Condition.Tokens
import SeriesFilter.Proofs.Engine.Posted
import SeriesFilter.Proofs.Engine.Runs
import SeriesFilter.Proofs.Engine.Saving
import SeriesFilter.Proofs.Filter.Editing
import SeriesFilter.Proofs.Filter.Location
import SeriesFilter.Proofs.Filter.Meaning
import SeriesFilter.Proofs.Filter.Places
import SeriesFilter.Proofs.Filter.Reading
import SeriesFilter.Proofs.Filter.Tree
import SeriesFilter.Proofs.Filter.Vacuity
import SeriesFilter.Proofs.Json.Indented
import SeriesFilter.Proofs.Json.Integers
import SeriesFilter.Proofs.Json.Readers
import SeriesFilter.Proofs.Json.Size
import SeriesFilter.Proofs.Json.Strings
import SeriesFilter.Proofs.Json.Tokens
import SeriesFilter.Proofs.Json.Trees
import SeriesFilter.Proofs.Outcome
import SeriesFilter.Proofs.Page.Partition
import SeriesFilter.Proofs.Page.StorageOrder
import SeriesFilter.Proofs.Plan.Order
import SeriesFilter.Proofs.Portable.Accounting
import SeriesFilter.Proofs.Portable.Address
import SeriesFilter.Proofs.Portable.Health
import SeriesFilter.Proofs.Portable.Losses
import SeriesFilter.Proofs.Portable.Nesting
import SeriesFilter.Proofs.Portable.Normalization
import SeriesFilter.Proofs.Portable.Payload
import SeriesFilter.Proofs.Portable.Reading
import SeriesFilter.Proofs.Portable.RoundTrip
import SeriesFilter.Proofs.Portable.Size
import SeriesFilter.Proofs.Portable.Tree
import SeriesFilter.Proofs.Portable.Widening
import SeriesFilter.Proofs.Store.Dangling
import SeriesFilter.Proofs.Store.Soundness
import SeriesFilter.Proofs.Text.Bytes
import SeriesFilter.Proofs.Text.Lower
import SeriesFilter.Proofs.Text.Numerals
import SeriesFilter.Proofs.Text.Parts
import SeriesFilter.Report.Fields
import SeriesFilter.Report.Format
import SeriesFilter.Report.Outline
import SeriesFilter.Report.Results
import SeriesFilter.Series
import SeriesFilter.Settings.Basic
import SeriesFilter.Settings.Load
import SeriesFilter.Settings.Setting
import SeriesFilter.Settings.Template
import SeriesFilter.Sorting
import SeriesFilter.Store
import SeriesFilter.Stream
import SeriesFilter.Text.Ascii
import SeriesFilter.Text.Blank
import SeriesFilter.Text.CaseTable
import SeriesFilter.Text.EscapeTable
import SeriesFilter.Text.Lower
import SeriesFilter.Text.Numeral
import SeriesFilter.Text.Quoted
import SeriesFilter.Text.Ranges
import SeriesFilter.Text.Search
import SeriesFilter.Toml.Document
import SeriesFilter.Toml.Quoted
import SeriesFilter.Toml.Value
import SeriesFilter.Toml.Word
import SeriesFilter.Yaml.Block
import SeriesFilter.Yaml.Scalar
