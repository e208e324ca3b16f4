import RecordFilter.Cache.PredicateCache
import RecordFilter.Cache.RecencyList
import RecordFilter.Calendar.Date
import RecordFilter.Calendar.DateText
import RecordFilter.Calendar.Instant
import RecordFilter.Calendar.InstantText
import RecordFilter.CommandLine.Options
import RecordFilter.CommandLine.Run
import RecordFilter.Compiler
import RecordFilter.Filter.Basic
import RecordFilter.Filter.Binding
import RecordFilter.Filter.Comparison
import RecordFilter.Filter.Predicate
import RecordFilter.Filter.Sql
import RecordFilter.Guid
import RecordFilter.Inspect
import RecordFilter.Json.Numeral
import RecordFilter.Json.Reader
import RecordFilter.Json.Value
import RecordFilter.Json.Writer
import RecordFilter.Main
import RecordFilter.Number.Decimal
import RecordFilter.Number.Double
import RecordFilter.Number.DoubleLiteral
import RecordFilter.Number.Hexadecimal
import RecordFilter.Number.Integer
import RecordFilter.Number.Rounding
import RecordFilter.Number.Style
import RecordFilter.Proofs.Cache.Inclusion
import RecordFilter.Proofs.Cache.MemoTable
import RecordFilter.Proofs.Cache.Recency
import RecordFilter.Proofs.Cache.RecencyRuns
import RecordFilter.Proofs.Cache.Refinement
import RecordFilter.Proofs.Cache.ReuseDistance
import RecordFilter.Proofs.Calendar.DateText
import RecordFilter.Proofs.Calendar.InstantForms
import RecordFilter.Proofs.Calendar.InstantText
import RecordFilter.Proofs.CommandLine.Modes
import RecordFilter.Proofs.CommandLine.Printing
import RecordFilter.Proofs.CommandLine.Requests
import RecordFilter.Proofs.Compiler.ErrorPositions
import RecordFilter.Proofs.Compiler.Extension
import RecordFilter.Proofs.Compiler.KnownNames
import RecordFilter.Proofs.Compiler.LiteralOpacity
import RecordFilter.Proofs.Compiler.Messages
import RecordFilter.Proofs.Compiler.NameResolution
import RecordFilter.Proofs.Compiler.OnePass
import RecordFilter.Proofs.Compiler.Rendering
import RecordFilter.Proofs.Compiler.Respelling
import RecordFilter.Proofs.Compiler.SingleComparison
import RecordFilter.Proofs.Compiler.Stages
import RecordFilter.Proofs.Filter.Evaluation
import RecordFilter.Proofs.Filter.Following
import RecordFilter.Proofs.Filter.LeafByLeaf
import RecordFilter.Proofs.Filter.Leaves
import RecordFilter.Proofs.Filter.OperatorLaws
import RecordFilter.Proofs.Filter.Rendering
import RecordFilter.Proofs.Filter.Sameness
import RecordFilter.Proofs.Filter.Typing
import RecordFilter.Proofs.GuidText
import RecordFilter.Proofs.Json.Building
import RecordFilter.Proofs.Json.Documents
import RecordFilter.Proofs.Json.NumeralText
import RecordFilter.Proofs.Json.Rereading
import RecordFilter.Proofs.Json.Scaling
import RecordFilter.Proofs.Json.Scanning
import RecordFilter.Proofs.Number.IntegerText
import RecordFilter.Proofs.Number.Rounding
import RecordFilter.Proofs.Number.Shortest
import RecordFilter.Proofs.Outcome
import RecordFilter.Proofs.Query.Brackets
import RecordFilter.Proofs.Query.Concatenation
import RecordFilter.Proofs.Query.Coverage
import RecordFilter.Proofs.Query.ErrorPositions
import RecordFilter.Proofs.Query.FirstUnmatched
import RecordFilter.Proofs.Query.Grammar
import RecordFilter.Proofs.Query.LeadingBrackets
import RecordFilter.Proofs.Query.Lexeme
import RecordFilter.Proofs.Query.Lexing
import RecordFilter.Proofs.Query.Limits
import RecordFilter.Proofs.Query.LongestName
import RecordFilter.Proofs.Query.Nesting
import RecordFilter.Proofs.Query.Reading
import RecordFilter.Proofs.Query.Recognition
import RecordFilter.Proofs.Query.Rewording
import RecordFilter.Proofs.Query.RoundTrip
import RecordFilter.Proofs.Query.ViablePrefix
import RecordFilter.Proofs.Rows.Declarations
import RecordFilter.Proofs.Rows.Reading
import RecordFilter.Proofs.Rows.Typing
import RecordFilter.Proofs.Schema.Building
import RecordFilter.Proofs.Schema.Fields
import RecordFilter.Proofs.Selection
import RecordFilter.Proofs.Sql.Escaping
import RecordFilter.Proofs.Sql.Grammar
import RecordFilter.Proofs.Sql.Parameters
import RecordFilter.Proofs.Sql.Pattern
import RecordFilter.Proofs.Sql.Placeholders
import RecordFilter.Proofs.Sql.Pushdown
import RecordFilter.Proofs.Sql.Rendering
import RecordFilter.Proofs.Sql.Semantics
import RecordFilter.Proofs.Text.BytePosition
import RecordFilter.Proofs.Text.Ink
import RecordFilter.Proofs.Text.LetterCase
import RecordFilter.Proofs.Value.LiteralText
import RecordFilter.Proofs.Value.Order
import RecordFilter.Proofs.Value.Typing
import RecordFilter.Query.Connective
import RecordFilter.Query.Expr
import RecordFilter.Query.Folding
import RecordFilter.Query.Lexicon
import RecordFilter.Query.Operator
import RecordFilter.Query.Token
import RecordFilter.Rows.Declaration
import RecordFilter.Rows.Rows
import RecordFilter.Schema
import RecordFilter.Text.Blank
import RecordFilter.Text.CodeRanges
import RecordFilter.Text.Lowercase
import RecordFilter.Text.NameChar
import RecordFilter.Text.Plain
import RecordFilter.Text.Quoted
import RecordFilter.Text.Utf8
import RecordFilter.Value.Basic
import RecordFilter.Value.FieldType
import RecordFilter.Value.Literal
import RecordFilter.Value.Text
