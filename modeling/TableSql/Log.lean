import TableSql.Statement.Basic

/-! Log lines: a message with named fields. -/

namespace TableSql

namespace Log

inductive Level
  | debug
  | info
  | warning
  deriving DecidableEq, Repr

/-- Entities and their statements are logged apart. -/
inductive Channel
  | entity
  | sql
  deriving DecidableEq, Repr

structure Line where
  level : Level
  channel : Channel
  message : String
  fields : List (String × String)
  deriving DecidableEq, Repr

end Log

end TableSql
