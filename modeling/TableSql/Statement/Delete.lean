import TableSql.Statement.Basic

/-! Statements that remove rows. -/

namespace TableSql.Statement

/-- Removes the rows of given ids, which are one argument. -/
def deleteByIds (table : String) (ids : List Value) : Statement :=
  ⟨.delete ⟨table, .listed⟩, [.array ids]⟩

def deleteArchived (table : String) (before : Value) : Statement :=
  ⟨.delete ⟨table, .archivedBefore⟩, [before]⟩

end TableSql.Statement
