import TableSql.Json.Decoding

/-! Options of a table's entity. -/

namespace TableSql

structure TraceOptions where
  /-- The greatest length of a statement in bytes, if there is one. -/
  maxSqlLength : Option UInt64
  deriving DecidableEq, Repr

namespace TraceOptions

def default : TraceOptions := ⟨some 500⟩

def toJson (o : TraceOptions) : Json :=
  .object [("max_sql_length", (o.maxSqlLength.map fun n => Json.nat n.toNat).getD .null)]

structure Draft where
  maxSqlLength : Option (Option UInt64) := none

def shape : Json.Shape Draft TraceOptions where
  name := "struct TraceOptions"
  draft := {}
  fields :=
    [ .of "max_sql_length" (.optional (.uint64 "usize")) Draft.maxSqlLength
        fun d a => { d with maxSqlLength := some a } ]
  build d := .ok ⟨d.maxSqlLength.getD default.maxSqlLength⟩

def decoder : Json.Decoder TraceOptions := shape.decode

end TraceOptions

structure EntityOptions where
  /-- The greatest number of rows that one statement writes. -/
  chunkSize : UInt64
  /-- Whether a summary of the entity is logged when it is made. -/
  logSummary : Bool
  trace : TraceOptions
  deriving DecidableEq, Repr

namespace EntityOptions

def default : EntityOptions := ⟨100, true, .default⟩

theorem chunkSize_default_ne_zero : default.chunkSize ≠ 0 := by decide

def toJson (o : EntityOptions) : Json :=
  .object
    [ ("chunk_size", .nat o.chunkSize.toNat),
      ("log_summary", .bool o.logSummary),
      ("trace", o.trace.toJson) ]

structure Draft where
  chunkSize : Option UInt64 := none
  logSummary : Option Bool := none
  trace : Option TraceOptions := none

def shape : Json.Shape Draft EntityOptions where
  name := "struct EntityOptions"
  draft := {}
  fields :=
    [ .of "chunk_size" (.uint64 "usize") Draft.chunkSize fun d a => { d with chunkSize := some a },
      .of "log_summary" .bool Draft.logSummary fun d a => { d with logSummary := some a },
      .of "trace" TraceOptions.decoder Draft.trace fun d a => { d with trace := some a } ]
  build d := .ok
    { chunkSize := d.chunkSize.getD default.chunkSize
      logSummary := d.logSummary.getD default.logSummary
      trace := d.trace.getD default.trace }

def decoder : Json.Decoder EntityOptions := shape.decode

end EntityOptions

end TableSql
