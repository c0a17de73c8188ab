import TableSql.Binary.Double
import TableSql.Binary.Format
import TableSql.Binary.Layout
import TableSql.Binary.Reading
import TableSql.Binary.Shortest
import TableSql.Calendar.Date
import TableSql.Calendar.Instant
import TableSql.Calendar.Reading
import TableSql.Client.Basic
import TableSql.Client.ConnectionString
import TableSql.Client.Error
import TableSql.Client.InternetAddress
import TableSql.Client.Pool
import TableSql.Client.Response
import TableSql.Client.Server
import TableSql.Client.Session
import TableSql.Client.Settings
import TableSql.Client.Table
import TableSql.Decimal.Integer
import TableSql.Entity.Basic
import TableSql.Entity.Chunks
import TableSql.Entity.Operations
import TableSql.Entity.Options
import TableSql.Entity.Registry
import TableSql.Entity.Stats
import TableSql.Entries
import TableSql.Filter.Basic
import TableSql.Filter.Check
import TableSql.Filter.Condition
import TableSql.Filter.MatchMode
import TableSql.Json.Basic
import TableSql.Json.Decoding
import TableSql.Json.Literal
import TableSql.Json.Mismatch
import TableSql.Json.Raw
import TableSql.Log
import TableSql.Power
import TableSql.Property.Basic
import TableSql.Property.Kind
import TableSql.Sql.Clause
import TableSql.Sql.Column
import TableSql.Sql.Command
import TableSql.Sql.Comparison
import TableSql.Sql.Identifier
import TableSql.Sql.Placeholder
import TableSql.Statement.Basic
import TableSql.Statement.Consumer
import TableSql.Statement.Delete
import TableSql.Statement.Evaluation
import TableSql.Statement.Insert
import TableSql.Statement.Request
import TableSql.Statement.Select
import TableSql.Statement.Update
import TableSql.Text.Blank
import TableSql.Text.Excerpt
import TableSql.Text.GraphemeExtend
import TableSql.Text.Hex
import TableSql.Text.Offset
import TableSql.Text.Quoted
import TableSql.Text.Unprintable
import TableSql.Text.Utf8
import TableSql.Value.Basic
import TableSql.Value.Inspect
import TableSql.Value.Json
import TableSql.Wire.Bytes
import TableSql.Wire.Clock
import TableSql.Wire.Decoding
import TableSql.Wire.Encoding
import TableSql.Wire.Fault
import TableSql.Wire.PgType
import TableSql.Wire.Uuid
import TableSql.Proofs.Binary.Nearest
import TableSql.Proofs.Binary.Pattern
import TableSql.Proofs.Calendar.Date
import TableSql.Proofs.Calendar.Instant
import TableSql.Proofs.Calendar.Reading
import TableSql.Proofs.Client.Recorded
import TableSql.Proofs.Client.Response
import TableSql.Proofs.Client.Session
import TableSql.Proofs.Client.Table
import TableSql.Proofs.Client.Trace
import TableSql.Proofs.Decimal.Integer
import TableSql.Proofs.Entity.Add
import TableSql.Proofs.Entity.Agreement
import TableSql.Proofs.Entity.Blocks
import TableSql.Proofs.Entity.Chunks
import TableSql.Proofs.Entity.Comparisons
import TableSql.Proofs.Entity.Failure
import TableSql.Proofs.Entity.Get
import TableSql.Proofs.Entity.Refusal
import TableSql.Proofs.Entity.Registry
import TableSql.Proofs.Entity.Stats
import TableSql.Proofs.Entity.Texts
import TableSql.Proofs.Entity.Update
import TableSql.Proofs.Entity.Writing
import TableSql.Proofs.Entries
import TableSql.Proofs.Filter.Body
import TableSql.Proofs.Filter.Composition
import TableSql.Proofs.Filter.Condition
import TableSql.Proofs.Filter.History
import TableSql.Proofs.Filter.Json
import TableSql.Proofs.Json.Decoding
import TableSql.Proofs.Json.Document
import TableSql.Proofs.Json.Fields
import TableSql.Proofs.Json.Magnitude
import TableSql.Proofs.Json.Number
import TableSql.Proofs.Json.Quoted
import TableSql.Proofs.Json.Shape
import TableSql.Proofs.Json.Tree
import TableSql.Proofs.Outcome
import TableSql.Proofs.Sql.Command
import TableSql.Proofs.Sql.Identifier
import TableSql.Proofs.Sql.Placeholder
import TableSql.Proofs.Sql.Quoting
import TableSql.Proofs.Sql.Scan
import TableSql.Proofs.Statement.Arguments
import TableSql.Proofs.Statement.Body
import TableSql.Proofs.Statement.Builder
import TableSql.Proofs.Statement.Change
import TableSql.Proofs.Statement.Insert
import TableSql.Proofs.Statement.Request
import TableSql.Proofs.Statement.Shape
import TableSql.Proofs.Statement.Update
import TableSql.Proofs.Text.Blank
import TableSql.Proofs.Text.Excerpt
import TableSql.Proofs.Text.Offset
import TableSql.Proofs.Text.Utf8
import TableSql.Proofs.Value.Json
import TableSql.Proofs.Value.Record
import TableSql.Proofs.Wire.Bytes
import TableSql.Proofs.Wire.Clock
import TableSql.Proofs.Wire.Documents
import TableSql.Proofs.Wire.Numbers
import TableSql.Proofs.Wire.Numerals
import TableSql.Proofs.Wire.Rebinding
import TableSql.Proofs.Wire.Scalar
import TableSql.Proofs.Wire.Timestamps
import TableSql.Proofs.Wire.Uuid
