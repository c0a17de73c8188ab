import TableSql.Statement.Basic
import TableSql.Statement.Consumer

/-! Statements that add rows. -/

namespace TableSql.Statement

/-- The columns a new row has: those of the table, and those of the consumer as they are. -/
def insertedColumns (columns : Sql.Columns) (consumer : Option Consumer) : List String :=
  columns.sql ++ match consumer with
    | some _ => [Consumer.idColumn, Consumer.nameColumn]
    | none => []

/-- What is bound for a row: null for a column it does not have. -/
def insertedCells (columns : Sql.Columns) (consumer : Option Consumer) (row : Record) :
    List Value :=
  columns.keys.map row.get ++ match consumer with
    | some c => [c.id, .text c.name]
    | none => []

/-- The ordinals of `count` tuples of `width`, one tuple after another. -/
def tuples (width : Nat) : Nat → Nat → List (List Nat)
  | _, 0 => []
  | start, count + 1 => List.range' start width :: tuples width (start + width) count

/-- New rows, and a clause that says what is returned of them; an empty clause is none. -/
def insert (columns : Sql.Columns) (table : String) (rows : List Record)
    (consumer : Option Consumer) (returning : Option String) : Statement :=
  let names := insertedColumns columns consumer
  { command := .insert
      { table
        columns := names
        tuples := tuples names.length 1 rows.length
        returning := returning.filter fun clause => !clause.isEmpty }
    args := rows.flatMap (insertedCells columns consumer) }

end TableSql.Statement
