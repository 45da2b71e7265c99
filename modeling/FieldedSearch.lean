import FieldedSearch.BooleanQuery.Expression
import FieldedSearch.BooleanQuery.Literal
import FieldedSearch.BooleanQuery.Prepared
import FieldedSearch.BooleanQuery.Request
import FieldedSearch.Calendar.Clock
import FieldedSearch.Calendar.Date
import FieldedSearch.Calendar.DateTime
import FieldedSearch.Calendar.Iso8601
import FieldedSearch.CommandLine.Arguments
import FieldedSearch.CommandLine.Command
import FieldedSearch.CommandLine.Page
import FieldedSearch.CommandLine.Program
import FieldedSearch.CommandLine.Report
import FieldedSearch.CommandLine.Transcript
import FieldedSearch.Comparison
import FieldedSearch.Constraint
import FieldedSearch.Directory
import FieldedSearch.Entries
import FieldedSearch.Failure
import FieldedSearch.Filter
import FieldedSearch.Filter.Change
import FieldedSearch.Filter.Detached
import FieldedSearch.Filter.Query
import FieldedSearch.Json.Printer
import FieldedSearch.Json.Reader
import FieldedSearch.Main
import FieldedSearch.Number.Amount
import FieldedSearch.Number.Double
import FieldedSearch.Number.Numeral
import FieldedSearch.Number.Shortest
import FieldedSearch.Number.Written
import FieldedSearch.Path
import FieldedSearch.Query.Group
import FieldedSearch.Query.Part
import FieldedSearch.Query.Term
import FieldedSearch.Registry
import FieldedSearch.Registry.Table
import FieldedSearch.Search.Answer
import FieldedSearch.Search.Hits
import FieldedSearch.Search.Problem
import FieldedSearch.Search.Searcher
import FieldedSearch.Search.Session
import FieldedSearch.Settings
import FieldedSearch.Settings.Example
import FieldedSearch.Settings.File
import FieldedSearch.SortOrder
import FieldedSearch.Terminal.Color
import FieldedSearch.Terminal.Handler
import FieldedSearch.Terminal.Line
import FieldedSearch.Terminal.Markup
import FieldedSearch.Terminal.Style
import FieldedSearch.Terminal.Table
import FieldedSearch.Text.Blank
import FieldedSearch.Text.DecimalDigit
import FieldedSearch.Text.Hexadecimal
import FieldedSearch.Text.Integer
import FieldedSearch.Text.LowerCase
import FieldedSearch.Text.Printable
import FieldedSearch.Text.Quoted
import FieldedSearch.Text.Similarity
import FieldedSearch.Text.UrlEncoded
import FieldedSearch.Text.Width
import FieldedSearch.Toml.Characters
import FieldedSearch.Toml.Printer
import FieldedSearch.Toml.Reader
import FieldedSearch.Toml.Scalar
import FieldedSearch.Toml.Table
import FieldedSearch.Value
import FieldedSearch.ValueType
import FieldedSearch.Proofs.Separation
import FieldedSearch.Proofs.Leftover
import FieldedSearch.Proofs.Survival
import FieldedSearch.Proofs.Groups
import FieldedSearch.Proofs.Lexer
import FieldedSearch.Proofs.Reading
import FieldedSearch.Proofs.Changes
import FieldedSearch.Proofs.Pieces
import FieldedSearch.Proofs.Writing
import FieldedSearch.Proofs.RoundTrip
import FieldedSearch.Proofs.BooleanSyntax
import FieldedSearch.Proofs.BooleanReading
import FieldedSearch.Proofs.Additions
import FieldedSearch.Proofs.Translating
import FieldedSearch.Proofs.Tidy
import FieldedSearch.Proofs.Sessions
import FieldedSearch.Proofs.CalendarText
import FieldedSearch.Proofs.Restating
import FieldedSearch.Proofs.Timestamps
import FieldedSearch.Proofs.Figures
import FieldedSearch.Proofs.Answers
import FieldedSearch.Proofs.Operands
import FieldedSearch.Proofs.Acceptance
import FieldedSearch.Proofs.Escaping
import FieldedSearch.Proofs.Commands
import FieldedSearch.Proofs.Cutting
import FieldedSearch.Proofs.TermGrammar
import FieldedSearch.Proofs.Decomposition
import FieldedSearch.Proofs.Keywords
import FieldedSearch.Proofs.DayCount
import FieldedSearch.Proofs.WholeParts
import FieldedSearch.Proofs.Instants
import FieldedSearch.Proofs.Refusals
import FieldedSearch.Proofs.IgnoredDefaults
import FieldedSearch.Proofs.Listing
import FieldedSearch.Proofs.PreparedDates
import FieldedSearch.Proofs.MalformedSettings
import FieldedSearch.Proofs.FieldTables
import FieldedSearch.Proofs.AllOrNothing
import FieldedSearch.Proofs.Literals
