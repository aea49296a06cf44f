import Strainer.Number.Exact
import Strainer.Float.Format
import Strainer.Float.Arith
import Strainer.Float.Shortest
import Strainer.Float.Text
import Strainer.Decimal.Basic
import Strainer.Decimal.Text
import Strainer.Number.Integer
import Strainer.Text.Blank
import Strainer.Time.Calendar
import Strainer.Time.DateTime
import Strainer.Time.Parse
import Strainer.Guid
import Strainer.Value.Kind
import Strainer.Value.Basic
import Strainer.Text.Utf8
import Strainer.Value.Convert
import Strainer.Json.Basic
import Strainer.Json.Read
import Strainer.Value.Json
import Strainer.Filter.Operator
import Strainer.Filter.Expr
import Strainer.Filter.Error
import Strainer.Filter.Scanner
import Strainer.Filter.Compile
import Strainer.Filter.Eval
import Strainer.Filter.Select
import Strainer.Record.Static
import Strainer.Record.Members
import Strainer.Value.Tagged
import Strainer.Files.Error
import Strainer.Parquet.Error
import Strainer.Rows.Error
import Strainer.Rows.View
import Strainer.Rows.Record
import Strainer.Rows.Memory
import Strainer.Rows.Lines
import Strainer.Rows.Sequence
import Strainer.Parquet.Schema
import Strainer.Parquet.File
import Strainer.Rows.Parquet
import Strainer.Rows.Source
import Strainer.Text.Literal
import Strainer.Filter.Compiled
import Strainer.Filter.Notes
import Strainer.Pipeline.Format
import Strainer.Pipeline.Progress
import Strainer.Files.Store
import Strainer.Pipeline.Failure
import Strainer.Sink.Lines
import Strainer.Sink.Columnar
import Strainer.Rows.Stored
import Strainer.Sink.Output
import Strainer.Command.Arg
import Strainer.Command.Similar
import Strainer.Command.Help
import Strainer.Command.Error
import Strainer.Command.Parse
import Strainer.Yaml.Token
import Strainer.Yaml.Scanner
import Strainer.Yaml.Event
import Strainer.Yaml.Node
import Strainer.Settings.Value
import Strainer.Settings.Yaml
import Strainer.Settings.Toml
import Strainer.Settings.Ini
import Strainer.Settings.File
import Strainer.Settings.Filters
import Strainer.Pipeline.Log
import Strainer.Pipeline.Plan
import Strainer.Pipeline.Run
import Strainer.Command.Invocation
import Strainer.Main
import Strainer.Proofs.Filter.Tokens
import Strainer.Proofs.Filter.Reading
import Strainer.Proofs.Filter.Simulation
import Strainer.Proofs.Filter.WellFormed
import Strainer.Proofs.Filter.Soundness
import Strainer.Proofs.Filter.Binding
import Strainer.Proofs.Rows.Records
import Strainer.Proofs.Pipeline.Batches
import Strainer.Proofs.Time.Reading
import Strainer.Proofs.Filter.Spelling
import Strainer.Proofs.Filter.Printing
import Strainer.Proofs.Time.Range
import Strainer.Proofs.Filter.DateRange
import Strainer.Proofs.Filter.DateTexts
import Strainer.Proofs.Value.Conversion
import Strainer.Proofs.Float.Rounding
import Strainer.Proofs.Float.ReadBack
import Strainer.Proofs.Decimal.ReadBack
import Strainer.Proofs.Value.TextRoundTrip
import Strainer.Proofs.Guid
import Strainer.Proofs.Time.Instants
import Strainer.Proofs.Sink.Cells
import Strainer.Proofs.Sink.Writing
import Strainer.Proofs.Filter.Relaxing
import Strainer.Proofs.Filter.Selecting
import Strainer.Proofs.Rows.LineRecords
import Strainer.Proofs.Rows.ColumnarBatches
import Strainer.Proofs.Pipeline.Progress
import Strainer.Proofs.Rows.ColumnNames
import Strainer.Proofs.Parquet.CellReading
import Strainer.Proofs.Float.Widening
import Strainer.Proofs.Value.JsonRoundTrip
import Strainer.Proofs.Rows.WholePass
