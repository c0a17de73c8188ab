import TableSql.Client.Basic

/-! Responses: replies with the number of rows they concern. -/

namespace TableSql

structure Response where
  rows : List Record
  rowCount : UInt64
  /-- The number of all rows that match, where it was asked for. -/
  total : Option UInt64
  deriving Repr

namespace Response

/-- Where the client does not say how many rows are concerned, those it returned are. -/
def ofReply (reply : Reply) : Response where
  rows := reply.rows
  rowCount := reply.affected.getD (UInt64.ofNat reply.rows.length)
  total := none

def toJson (r : Response) : Json :=
  .object <|
    [ ("rows", .array (r.rows.map Record.toJson)),
      ("rowCount", .nat r.rowCount.toNat) ]
    ++ match r.total with
      | some n => [("total", .nat n.toNat)]
      | none => []

/-- The number in the column of the count, as the first row has it. -/
def count? (r : Response) : Option Int64 :=
  match r.rows with
  | [] => none
  | row :: _ => (row.get? Sql.totalColumn).bind Value.asInt?

/-- Moves the count from the rows to the response. A negative number is no count, but leaves the
rows as well. -/
def takeTotal (r : Response) : Response :=
  match r.count? with
  | none => r
  | some n =>
    { r with
      rows := r.rows.map (·.erase Sql.totalColumn)
      total := if n < 0 then none else some n.toUInt64 }

end Response

end TableSql
