import TableSql.Filter.Basic
import TableSql.Sql.Clause

/-! Requests for rows: which page of them, in which order, and which of them at all. -/

namespace TableSql

namespace Sql.SortOrder

/-- `"DESC"` and the integer -1 mean descending, and everything else ascending. -/
def ofJson : Json → SortOrder
  | .string "DESC" => .descending
  | .number (.integer (-1)) => .descending
  | _ => .ascending

def decoder : Json.Decoder SortOrder := fun origin raw =>
  (Json.Decoder.any origin raw).map ofJson

end Sql.SortOrder

structure SelectRequest where
  first : UInt64
  /-- No limit where there is none or it is zero. -/
  rows : Option UInt64
  sortField : Option String
  sortOrder : Sql.SortOrder
  filters : Filters
  /-- Whether the number of all matching rows is asked for too. -/
  pagination : Bool
  deriving Repr

namespace SelectRequest

/-- All rows, in no particular order. -/
def all : SelectRequest := ⟨0, none, none, .ascending, .empty, false⟩

def toJson (r : SelectRequest) : Json :=
  .object
    [ ("first", .nat r.first.toNat),
      ("rows", (r.rows.map fun n => Json.nat n.toNat).getD .null),
      ("sortField", (r.sortField.map Json.string).getD .null),
      ("sortOrder", .string r.sortOrder.text),
      ("filters", r.filters.toJson),
      ("pagination", .bool r.pagination) ]

structure Draft where
  first : Option UInt64 := none
  rows : Option (Option UInt64) := none
  sortField : Option (Option String) := none
  sortOrder : Option Sql.SortOrder := none
  filters : Option Filters := none
  pagination : Option Bool := none

/-- A field that is absent or null has its value in `all`. -/
def shape : Json.Shape Draft SelectRequest where
  name := "struct SelectRequest"
  draft := {}
  fields :=
    [ .of "first" (.optional (.uint64 "u64")) (fun d => d.first.map some)
        fun d a => { d with first := some (a.getD all.first) },
      .of "rows" (.optional (.uint64 "u64")) Draft.rows fun d a => { d with rows := some a },
      .of "sortField" (.optional .string) Draft.sortField
        fun d a => { d with sortField := some a },
      .of "sortOrder" Sql.SortOrder.decoder Draft.sortOrder
        fun d a => { d with sortOrder := some a },
      .of "filters" Filters.decoder Draft.filters fun d a => { d with filters := some a },
      .of "pagination" (.optional .bool) (fun d => d.pagination.map some)
        fun d a => { d with pagination := some (a.getD all.pagination) } ]
  build d := .ok
    { first := d.first.getD all.first
      rows := d.rows.getD all.rows
      sortField := d.sortField.getD all.sortField
      sortOrder := d.sortOrder.getD all.sortOrder
      filters := d.filters.getD all.filters
      pagination := d.pagination.getD all.pagination }

def decoder : Json.Decoder SelectRequest := shape.decode

end SelectRequest

end TableSql
