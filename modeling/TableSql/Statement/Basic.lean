import TableSql.Sql.Command
import TableSql.Value.Json

/-! Statements: a command and the arguments of its placeholders, in the order of their ordinals. -/

namespace TableSql

structure Statement where
  command : Sql.Command
  args : List Value
  deriving Repr

namespace Statement

def text (s : Statement) : String := s.command.text

def placeholderCount (s : Statement) : Nat := Sql.placeholderCount s.text

def arg (s : Statement) (ordinal : Nat) : Value := s.args.getD (ordinal - 1) .null

def argsJson (s : Statement) : Json := .array (Value.toItems s.args)

def toJson (s : Statement) : Json := .object [("query", .string s.text), ("args", s.argsJson)]

end Statement

end TableSql
