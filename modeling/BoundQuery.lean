import BoundQuery.Calendar.Date
import BoundQuery.Calendar.Moment
import BoundQuery.Catalog.Basic
import BoundQuery.Catalog.ColumnType
import BoundQuery.Catalog.Draft
import BoundQuery.Catalog.Entity
import BoundQuery.CommandLine.Arguments
import BoundQuery.CommandLine.Folder
import BoundQuery.CommandLine.Run
import BoundQuery.Condition.Basic
import BoundQuery.Criteria
import BoundQuery.Dictionary
import BoundQuery.Document.Basic
import BoundQuery.Document.Catalog
import BoundQuery.Document.Condition
import BoundQuery.Document.Criteria
import BoundQuery.Document.PlainScalar
import BoundQuery.Document.Settings
import BoundQuery.Document.Value
import BoundQuery.Error
import BoundQuery.Json.Basic
import BoundQuery.Json.Parser
import BoundQuery.Json.Printer
import BoundQuery.Main
import BoundQuery.Number.Binary64
import BoundQuery.Number.Shortest
import BoundQuery.Number.Text
import BoundQuery.Scope.Basic
import BoundQuery.Scope.Pruned
import BoundQuery.Scope.Source
import BoundQuery.Settings
import BoundQuery.Statement.Dialect
import BoundQuery.Statement.Fragment
import BoundQuery.Statement.Having
import BoundQuery.Statement.Labels
import BoundQuery.Statement.Literal
import BoundQuery.Statement.Projection
import BoundQuery.Statement.Select
import BoundQuery.Statement.Update
import BoundQuery.Statement.Where
import BoundQuery.Text.Blank
import BoundQuery.Text.Case
import BoundQuery.Text.CaseTable
import BoundQuery.Text.Cut
import BoundQuery.Text.Letter
import BoundQuery.Text.LetterTable
import BoundQuery.Value
import BoundQuery.Yaml.Cursor
import BoundQuery.Yaml.Parser
import BoundQuery.Yaml.Scalar
import BoundQuery.Yaml.Token
import BoundQuery.Proofs.Dictionaries
import BoundQuery.Proofs.Marks
import BoundQuery.Proofs.Outcome
import BoundQuery.Proofs.Resolution
import BoundQuery.Proofs.Forest
import BoundQuery.Proofs.Placeholders
import BoundQuery.Proofs.Spelled
import BoundQuery.Proofs.WrittenValues
import BoundQuery.Proofs.Fitting
import BoundQuery.Proofs.ReadClauses
import BoundQuery.Proofs.ReadAlignment
import BoundQuery.Proofs.BoundValues
import BoundQuery.Proofs.Assignments
import BoundQuery.Proofs.UpdateAlignment
import BoundQuery.Proofs.Noninterference
import BoundQuery.Proofs.QuotedText
import BoundQuery.Proofs.Positions
import BoundQuery.Proofs.Pruning
import BoundQuery.Proofs.TrimmedText
import BoundQuery.Proofs.ResolvedText
import BoundQuery.Proofs.WhereClauses
import BoundQuery.Proofs.Lexemes
import BoundQuery.Proofs.Skeleton
import BoundQuery.Proofs.LegibleConditions
import BoundQuery.Proofs.InkedText
import BoundQuery.Proofs.UnfilteredUpdates
import BoundQuery.Proofs.ResultLabels
import BoundQuery.Proofs.AggregateConditions
import BoundQuery.Proofs.CalendarText
import BoundQuery.Proofs.JsonText
import BoundQuery.Proofs.UntaggedValues
import BoundQuery.Proofs.RestoredDocuments
import BoundQuery.Proofs.Registry
import BoundQuery.Proofs.Faults
import BoundQuery.Proofs.Dialects
import BoundQuery.Proofs.SourceTokens
import BoundQuery.Proofs.JoinChains
import BoundQuery.Proofs.UnresolvedNames
import BoundQuery.Proofs.FromClauses
import BoundQuery.Proofs.IllFormedLeaves
import BoundQuery.Proofs.KeyExpressions
import BoundQuery.Proofs.EntityNames
import BoundQuery.Proofs.SettingsLayers
import BoundQuery.Proofs.EpochDays
import BoundQuery.Proofs.EpochMillis
import BoundQuery.Proofs.DeclaredNames
import BoundQuery.Proofs.FailingEntries
import BoundQuery.Proofs.StoredDefaults
import BoundQuery.Proofs.BalancedText
import BoundQuery.Proofs.AggregateLabels
import BoundQuery.Proofs.OwnedColumns
import BoundQuery.Proofs.CommaSpacing
import BoundQuery.Proofs.RespacedSources
import BoundQuery.Proofs.ComparisonSides
import BoundQuery.Proofs.SelectLists
import BoundQuery.Proofs.ClauseLists
import BoundQuery.Proofs.ClosedText
import BoundQuery.Proofs.LiteralContents
import BoundQuery.Proofs.ScriptLiterals
