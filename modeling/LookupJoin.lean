import LookupJoin.AsyncOptions
import LookupJoin.Calc
import LookupJoin.Calendar
import LookupJoin.Catalog
import LookupJoin.Clock
import LookupJoin.DataType
import LookupJoin.DataType.Castable
import LookupJoin.DataType.Interoperable
import LookupJoin.DataType.Text
import LookupJoin.Error
import LookupJoin.Execution
import LookupJoin.Explain
import LookupJoin.Expr
import LookupJoin.Expr.Build
import LookupJoin.Expr.Conjunct
import LookupJoin.Expr.Text
import LookupJoin.Hint
import LookupJoin.Hint.Duration
import LookupJoin.Hint.Options
import LookupJoin.Join
import LookupJoin.Json.Number
import LookupJoin.Json.Printer
import LookupJoin.Json.Reader
import LookupJoin.LogicalPlan
import LookupJoin.LookupKey
import LookupJoin.LookupKey.Analysis
import LookupJoin.Number.Decimal
import LookupJoin.Number.FloatFormat
import LookupJoin.Number.Shortest
import LookupJoin.Plan
import LookupJoin.PrimaryKey
import LookupJoin.Proofs.Agreement
import LookupJoin.Proofs.Conformance
import LookupJoin.Proofs.DataType.Casting
import LookupJoin.Proofs.DataType.Decimal
import LookupJoin.Proofs.DataType.Widening
import LookupJoin.Proofs.Execution
import LookupJoin.Proofs.Expr.Conjunction
import LookupJoin.Proofs.Expr.Construction
import LookupJoin.Proofs.Expr.Flattening
import LookupJoin.Proofs.Expr.Mark
import LookupJoin.Proofs.Expr.Nullability
import LookupJoin.Proofs.Expr.Provenance
import LookupJoin.Proofs.Expr.Reading
import LookupJoin.Proofs.Expr.Reference
import LookupJoin.Proofs.Expr.Renumber
import LookupJoin.Proofs.Expr.WellFormed
import LookupJoin.Proofs.Expr.Wording
import LookupJoin.Proofs.Hint.Duration
import LookupJoin.Proofs.Hint.Reading
import LookupJoin.Proofs.Hint.Respelling
import LookupJoin.Proofs.Hint.Writing
import LookupJoin.Proofs.LookupKey.Latest
import LookupJoin.Proofs.LookupKey.Origin
import LookupJoin.Proofs.Metadata
import LookupJoin.Proofs.Outcome
import LookupJoin.Proofs.Pairing
import LookupJoin.Proofs.Plan.Accepted
import LookupJoin.Proofs.Plan.Batch
import LookupJoin.Proofs.Plan.Comparison
import LookupJoin.Proofs.Plan.Composition
import LookupJoin.Proofs.Plan.ConstantKey
import LookupJoin.Proofs.Plan.Driving
import LookupJoin.Proofs.Plan.Explanation
import LookupJoin.Proofs.Plan.FieldTypes
import LookupJoin.Proofs.Plan.Forwarding
import LookupJoin.Proofs.Plan.Identity
import LookupJoin.Proofs.Plan.KeyFit
import LookupJoin.Proofs.Plan.Logical
import LookupJoin.Proofs.Plan.LostPair
import LookupJoin.Proofs.Plan.Meaning
import LookupJoin.Proofs.Plan.Options
import LookupJoin.Proofs.Plan.Order
import LookupJoin.Proofs.Plan.Readiness
import LookupJoin.Proofs.Plan.Separation
import LookupJoin.Proofs.Plan.Validity
import LookupJoin.Proofs.PrimaryKey.Coverage
import LookupJoin.Proofs.PrimaryKey.Exposure
import LookupJoin.Proofs.PrimaryKey.Unknown
import LookupJoin.Proofs.Residual
import LookupJoin.Proofs.Residual.Leftover
import LookupJoin.Proofs.Residual.Position
import LookupJoin.Proofs.Scalar.Quotation
import LookupJoin.Proofs.Settings.Document
import LookupJoin.Proofs.Settings.Layering
import LookupJoin.Proofs.Settings.Library
import LookupJoin.Proofs.Settings.Setting
import LookupJoin.Proofs.Text.Spelling
import LookupJoin.Residual
import LookupJoin.Scalar
import LookupJoin.Scalar.Item
import LookupJoin.Scalar.Number
import LookupJoin.Scalar.Text
import LookupJoin.Settings
import LookupJoin.Settings.Decoder
import LookupJoin.Settings.Documents
import LookupJoin.Settings.Loader
import LookupJoin.Settings.Path
import LookupJoin.Span
import LookupJoin.Text.Blank
import LookupJoin.Text.Digits
import LookupJoin.Text.Hex
import LookupJoin.Text.Printable
import LookupJoin.Toml.Number
import LookupJoin.Toml.Reader
import LookupJoin.Toml.Table
import LookupJoin.Toml.Text
import LookupJoin.Value
import LookupJoin.Zone
import LookupJoin.Zone.AliasTable
import LookupJoin.Zone.EraTable
import LookupJoin.Zone.History
import LookupJoin.Zone.Named
import LookupJoin.Zone.RuleTable
