import TableSchema.Main
import TableSchema.Proofs.Draft
import TableSchema.Proofs.Visit
import TableSchema.Proofs.Text.Integer
import TableSchema.Proofs.TypeName
import TableSchema.Proofs.Reading
import TableSchema.Proofs.Typing
import TableSchema.Proofs.Clauses
import TableSchema.Proofs.Failure
import TableSchema.Proofs.Independence
import TableSchema.Proofs.Outline.Definitions
import TableSchema.Proofs.Outline.Build
import TableSchema.Proofs.Outline.Columns
import TableSchema.Proofs.Outline.Key
import TableSchema.Proofs.Outline.Nullability
import TableSchema.Proofs.Order
import TableSchema.Proofs.DraftRun
import TableSchema.Proofs.Alone
import TableSchema.Proofs.History
import TableSchema.Proofs.Outline.Comments
import TableSchema.Proofs.Source.Literal
import TableSchema.Proofs.Json.RoundTrip
import TableSchema.Proofs.Log
import TableSchema.Proofs.LogRun
import TableSchema.Proofs.Sql.Literal
import TableSchema.Proofs.Json.Marks
import TableSchema.Proofs.CommandLine.Output
import TableSchema.Proofs.Text.Letters
import TableSchema.Proofs.Source.OnePass
import TableSchema.Proofs.Source.Seams
import TableSchema.Proofs.Source.Completion
import TableSchema.Proofs.Source.Regions
import TableSchema.Proofs.Source.Comments
import TableSchema.Proofs.Addition
import TableSchema.Proofs.Source.Interleaving
import TableSchema.Proofs.Source.LongestForm
import TableSchema.Proofs.Dimensions
import TableSchema.Proofs.DefaultRun
import TableSchema.Proofs.Range
import TableSchema.Proofs.Serial
import TableSchema.Proofs.KeyChange
import TableSchema.Proofs.Outline.OneColumn
import TableSchema.Proofs.Source.ColumnName
import TableSchema.Proofs.Spelling
import TableSchema.Proofs.Sql.Modifiers
import TableSchema.Proofs.CharacterSet
