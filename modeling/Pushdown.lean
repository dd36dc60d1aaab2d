import Pushdown.CommandLine.Arguments
import Pushdown.CommandLine.Run
import Pushdown.CommandLine.Variables
import Pushdown.Condition
import Pushdown.Error
import Pushdown.Export
import Pushdown.Expression
import Pushdown.Http.Address
import Pushdown.Http.Network
import Pushdown.Http.PageSource
import Pushdown.Json.Excerpt
import Pushdown.Json.Reader
import Pushdown.Json.Value
import Pushdown.Json.Writer
import Pushdown.Main
import Pushdown.Number.Binary
import Pushdown.Number.Decimal
import Pushdown.Number.Shortest
import Pushdown.Operator
import Pushdown.Plan
import Pushdown.Proofs.Collection.Connections
import Pushdown.Proofs.Collection.Fields
import Pushdown.Proofs.Collection.Metadata
import Pushdown.Proofs.Collection.Places
import Pushdown.Proofs.Collection.Preparation
import Pushdown.Proofs.Collection.Removal
import Pushdown.Proofs.Collection.Searches
import Pushdown.Proofs.Collection.Sessions
import Pushdown.Proofs.Condition.Extraction
import Pushdown.Proofs.Condition.Truth
import Pushdown.Proofs.Json.Entries
import Pushdown.Proofs.Number.Rounding
import Pushdown.Proofs.Order.Cells
import Pushdown.Proofs.Order.Clash
import Pushdown.Proofs.Order.Lawful
import Pushdown.Proofs.Order.Patched
import Pushdown.Proofs.Order.Rows
import Pushdown.Proofs.Order.Sameness
import Pushdown.Proofs.Order.StableSort
import Pushdown.Proofs.Outcome
import Pushdown.Proofs.Plan.Agreement
import Pushdown.Proofs.Plan.Answer
import Pushdown.Proofs.Plan.Budget
import Pushdown.Proofs.Plan.Ceiling
import Pushdown.Proofs.Plan.Columns
import Pushdown.Proofs.Plan.Planned
import Pushdown.Proofs.Registry.Handover
import Pushdown.Proofs.Registry.Insertion
import Pushdown.Proofs.Registry.Uniform
import Pushdown.Proofs.Remote.Failures
import Pushdown.Proofs.Rows.Filter
import Pushdown.Proofs.Rows.Integers
import Pushdown.Proofs.Rows.Unification
import Pushdown.Proofs.Statement.Acceptance
import Pushdown.Proofs.Statement.Clauses
import Pushdown.Proofs.Statement.Outlines
import Pushdown.Proofs.Statement.Projections
import Pushdown.Proofs.Statement.Qualifiers
import Pushdown.Proofs.Store.Changes
import Pushdown.Proofs.Store.Erasure
import Pushdown.Proofs.Store.Preservation
import Pushdown.Proofs.Store.Recording
import Pushdown.Proofs.Tables.Delivery
import Pushdown.Proofs.Tables.Inference
import Pushdown.Proofs.Tables.Legibility
import Pushdown.Proofs.Translation.Account
import Pushdown.Proofs.Translation.Partition
import Pushdown.Proofs.Translation.Rendering
import Pushdown.Registry
import Pushdown.Remote.Fetch
import Pushdown.Remote.Pipeline
import Pushdown.Rows.Compare
import Pushdown.Rows.Completion
import Pushdown.Rows.Filter
import Pushdown.Rows.Unification
import Pushdown.Schema
import Pushdown.Settings
import Pushdown.Spec
import Pushdown.Sql.Administration
import Pushdown.Sql.Alteration
import Pushdown.Sql.Call
import Pushdown.Sql.Change
import Pushdown.Sql.Column
import Pushdown.Sql.DataType
import Pushdown.Sql.Definition
import Pushdown.Sql.Expression
import Pushdown.Sql.Keyword
import Pushdown.Sql.Lexer
import Pushdown.Sql.Operation
import Pushdown.Sql.Pattern
import Pushdown.Sql.Query
import Pushdown.Sql.Reading
import Pushdown.Sql.Session
import Pushdown.Sql.Source
import Pushdown.Sql.Statement
import Pushdown.Sql.Syntax
import Pushdown.Sql.Token
import Pushdown.Sql.Transfer
import Pushdown.Statement
import Pushdown.Store.Memory
import Pushdown.Store.Rest
import Pushdown.Store.Store
import Pushdown.Tables.Collection
import Pushdown.Tables.Dataset
import Pushdown.Tables.News
import Pushdown.Tables.Remote
import Pushdown.Tables.Table
import Pushdown.Tables.VideoResource
import Pushdown.Tables.VideoSite
import Pushdown.Text.Blank
import Pushdown.Text.Letter
import Pushdown.Text.Wildcard
import Pushdown.Time.Instant
import Pushdown.Translation
import Pushdown.Proofs.Plan.References
import Pushdown.Proofs.Translation.Nulls
import Pushdown.Proofs.Remote.Requests
import Pushdown.Proofs.Remote.Pages
import Pushdown.Proofs.Tables.Targets
import Pushdown.Proofs.Remote.Termination
import Pushdown.Proofs.Rows.Shaped
import Pushdown.Proofs.Rows.Complete
import Pushdown.Proofs.Plan.Ordering
import Pushdown.Proofs.Text.Patterns
import Pushdown.Proofs.Text.Regex
import Pushdown.Proofs.Condition.Likeness
import Pushdown.Proofs.Condition.Conjuncts
import Pushdown.Proofs.Tables.FirstValues
import Pushdown.Proofs.Statement.Integers
import Pushdown.Proofs.Collection.Entities
import Pushdown.Proofs.Number.Digits
import Pushdown.Proofs.Json.Numerals
import Pushdown.Proofs.Json.RoundTrip
import Pushdown.Proofs.Export.Fields
import Pushdown.Proofs.Export.Lines
import Pushdown.Proofs.Http.Bodies
import Pushdown.Proofs.Json.Allowance
import Pushdown.Proofs.Tables.Faults
import Pushdown.Proofs.Tables.Durations
