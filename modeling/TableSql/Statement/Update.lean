import TableSql.Statement.Basic
import TableSql.Statement.Consumer

/-! Statements that change rows, each found by its id. -/

namespace TableSql.Statement

/-- The columns that are changed: those that the first row has, and those of the consumer as they
are. -/
def assignedColumns (columns : Sql.Columns) (first : Option Record)
    (consumer : Option Consumer) : List Sql.Column :=
  let given := match first with
    | some row => columns.toList.filter fun column => row.contains column.key
    | none => []
  given ++ match consumer with
    | some _ => [.bare Consumer.idColumn, .bare Consumer.nameColumn]
    | none => []

/-- What is bound for a row under a key: the consumer's own columns come from the consumer. -/
def updatedCell (consumer : Option Consumer) (key : String) (row : Record) : Value :=
  (consumer.bind (·.cell? key)).getD (row.get key)

/-- An assignment for each column; of `count` rows, the values for a column have the ordinals from
`start`, and those of the next column follow. -/
def assignments (count : Nat) : Nat → List Sql.Column → List Sql.Assignment
  | _, [] => []
  | start, column :: rest =>
    ⟨column.sql, (List.range' 1 count).zip (List.range' start count)⟩
      :: assignments count (start + count) rest

/-- New values for the rows of given ids. The ids are the first arguments, and are referred to in
every assignment and in the choice of rows. -/
def update (columns : Sql.Columns) (table : String) (rows : List Record)
    (consumer : Option Consumer) : Statement :=
  let count := rows.length
  let assigned := assignedColumns columns rows.head? consumer
  { command := .update
      { table
        assignments := assignments count (count + 1) assigned
        ids := List.range' 1 count }
    args := rows.map (·.get Sql.idColumn)
      ++ assigned.flatMap fun column => rows.map (updatedCell consumer column.key) }

end TableSql.Statement
