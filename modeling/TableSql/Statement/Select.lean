import TableSql.Filter.Condition
import TableSql.Statement.Basic
import TableSql.Statement.Request

/-! Statements that list rows. -/

namespace TableSql.Statement

/-- The rows of a table that a request asks for. Its filters are taken as they are. -/
def select (columns : Sql.Columns) (table : String) (request : SelectRequest) : Statement :=
  let compiled := request.filters.compile 1
  { command := .select
      { columns := columns.sql
        counted := request.pagination
        table
        conditions := compiled.conditions
        sortField := request.sortField
        sortOrder := request.sortOrder
        rows := request.rows
        first := request.first }
    args := compiled.args }

end TableSql.Statement
