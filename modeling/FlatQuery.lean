import FlatQuery.Calendar.Date
import FlatQuery.Calendar.Format
import FlatQuery.Calendar.Instant
import FlatQuery.Calendar.Month
import FlatQuery.Csv.Inference
import FlatQuery.Csv.Record
import FlatQuery.Csv.Source
import FlatQuery.Csv.Writer
import FlatQuery.Engine.Accumulator
import FlatQuery.Engine.Execution
import FlatQuery.Engine.Filter
import FlatQuery.Engine.Grouping
import FlatQuery.Engine.Ordering
import FlatQuery.Engine.Session
import FlatQuery.Files.Path
import FlatQuery.Files.Tree
import FlatQuery.Main
import FlatQuery.Number.Binary64
import FlatQuery.Number.Decimal
import FlatQuery.Number.Shortest
import FlatQuery.Output.Artifact
import FlatQuery.Output.Format
import FlatQuery.Output.Grid
import FlatQuery.Output.Json
import FlatQuery.Pattern.Basic
import FlatQuery.Pattern.Keyword
import FlatQuery.Pattern.WholeWord
import FlatQuery.Proofs.Calendar.DateTexts
import FlatQuery.Proofs.Calendar.Reading
import FlatQuery.Proofs.Calendar.WrittenDates
import FlatQuery.Proofs.Csv.InferredTypes
import FlatQuery.Proofs.Csv.ReadBack
import FlatQuery.Proofs.Csv.Views
import FlatQuery.Proofs.Engine.ColumnErrors
import FlatQuery.Proofs.Engine.Extremes
import FlatQuery.Proofs.Engine.GroupedSums
import FlatQuery.Proofs.Engine.Groups
import FlatQuery.Proofs.Engine.Merging
import FlatQuery.Proofs.Engine.OrderedGroups
import FlatQuery.Proofs.Engine.ParsedPlans
import FlatQuery.Proofs.Engine.PlainRows
import FlatQuery.Proofs.Engine.RowOrders
import FlatQuery.Proofs.Engine.Sessions
import FlatQuery.Proofs.Engine.SortedRows
import FlatQuery.Proofs.Engine.Workbenches
import FlatQuery.Proofs.Fallible
import FlatQuery.Proofs.Number.Decimals
import FlatQuery.Proofs.Pattern.ByteCuts
import FlatQuery.Proofs.Pattern.Cuts
import FlatQuery.Proofs.Pattern.Keywords
import FlatQuery.Proofs.Pattern.LetterCase
import FlatQuery.Proofs.Pattern.Occurrences
import FlatQuery.Proofs.Pattern.Places
import FlatQuery.Proofs.Pattern.Spacing
import FlatQuery.Proofs.Pattern.Splits
import FlatQuery.Proofs.Pattern.WholeWords
import FlatQuery.Proofs.Query.AcceptedCalls
import FlatQuery.Proofs.Query.BytewiseClauses
import FlatQuery.Proofs.Query.BytewiseOutline
import FlatQuery.Proofs.Query.BytewisePlans
import FlatQuery.Proofs.Query.Calls
import FlatQuery.Proofs.Query.ClauseOrder
import FlatQuery.Proofs.Query.Comparisons
import FlatQuery.Proofs.Query.ConditionParts
import FlatQuery.Proofs.Query.Connectives
import FlatQuery.Proofs.Query.Criterion
import FlatQuery.Proofs.Query.DerivedTables
import FlatQuery.Proofs.Query.Dialect
import FlatQuery.Proofs.Query.LetterCase
import FlatQuery.Proofs.Query.LostClauses
import FlatQuery.Proofs.Query.NestedPlans
import FlatQuery.Proofs.Query.Passages
import FlatQuery.Proofs.Query.PresentClauses
import FlatQuery.Proofs.Query.Printed
import FlatQuery.Proofs.Query.PrintedBase
import FlatQuery.Proofs.Query.PrintedClauses
import FlatQuery.Proofs.Query.PrintedFilter
import FlatQuery.Proofs.Query.PrintedOutline
import FlatQuery.Proofs.Query.Printing
import FlatQuery.Proofs.Query.QuotedLiterals
import FlatQuery.Proofs.Query.Reading
import FlatQuery.Proofs.Query.Refusals
import FlatQuery.Proofs.Query.RoundTrip
import FlatQuery.Proofs.Query.ShownPredicates
import FlatQuery.Proofs.Query.SoundOutlines
import FlatQuery.Proofs.Query.SpacedClauses
import FlatQuery.Proofs.Query.SpacedConditions
import FlatQuery.Proofs.Query.SpacedPlans
import FlatQuery.Proofs.Query.SwallowedClauses
import FlatQuery.Proofs.Query.WellFormed
import FlatQuery.Proofs.Shell.GivenQueries
import FlatQuery.Proofs.Table.CellComparisons
import FlatQuery.Proofs.Table.CellOrder
import FlatQuery.Proofs.Text.ByteRanges
import FlatQuery.Proofs.Text.Encoding
import FlatQuery.Proofs.Text.LetterCase
import FlatQuery.Proofs.Text.Letters
import FlatQuery.Proofs.Text.Spacing
import FlatQuery.Proofs.Text.Words
import FlatQuery.Query.Aggregate
import FlatQuery.Query.Clause
import FlatQuery.Query.Comparison
import FlatQuery.Query.Connective
import FlatQuery.Query.Kind
import FlatQuery.Query.Outline
import FlatQuery.Query.ParseError
import FlatQuery.Query.Plan
import FlatQuery.Query.Predicate
import FlatQuery.Query.QueryError
import FlatQuery.Query.Settings
import FlatQuery.Query.SortKey
import FlatQuery.Shell.Arguments
import FlatQuery.Shell.Brackets
import FlatQuery.Shell.Completion
import FlatQuery.Shell.Console
import FlatQuery.Shell.Escape
import FlatQuery.Shell.InputLine
import FlatQuery.Shell.Program
import FlatQuery.Shell.Shell
import FlatQuery.Shell.Similarity
import FlatQuery.Table.Cell
import FlatQuery.Table.ResultSet
import FlatQuery.Table.Schema
import FlatQuery.Table.Source
import FlatQuery.Table.SourceError
import FlatQuery.Text.Basic
import FlatQuery.Text.CharRange
import FlatQuery.Text.CharWidth
import FlatQuery.Text.Cluster
import FlatQuery.Text.Combining
import FlatQuery.Text.DecimalDigit
import FlatQuery.Text.DisplayWidth
import FlatQuery.Text.Emoji
import FlatQuery.Text.LetterCase
import FlatQuery.Text.Ligature
import FlatQuery.Text.Utf8
import FlatQuery.Text.WhiteSpace
import FlatQuery.Text.WordChar
import FlatQuery.Proofs.Shell.CompletedWords
import FlatQuery.Proofs.Pattern.Pieces
import FlatQuery.Proofs.Pattern.FoundKeywords
import FlatQuery.Proofs.Query.SelectedCalls
