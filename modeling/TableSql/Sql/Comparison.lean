import TableSql.Sql.Placeholder

/-! Conditions: a column compared with placeholders. -/

namespace TableSql.Sql

inductive Comparator
  | equal
  | notEqual
  | less
  | lessOrEqual
  | greater
  | greaterOrEqual
  | isSame
  | isNotSame
  | isIn
  | isLike
  | isNotLike
  deriving DecidableEq, Repr

def Comparator.text : Comparator → String
  | .equal => "="
  | .notEqual => "<>"
  | .less => "<"
  | .lessOrEqual => "<="
  | .greater => ">"
  | .greaterOrEqual => ">="
  | .isSame => "IS"
  | .isNotSame => "IS NOT"
  | .isIn => "IN"
  | .isLike => "LIKE"
  | .isNotLike => "NOT LIKE"

/-- What stands around the placeholders of a condition. -/
inductive Pattern
  | bare
  /-- A wildcard after them. -/
  | start
  /-- A wildcard before them. -/
  | stop
  /-- A wildcard on both sides. -/
  | within
  /-- Parentheses. -/
  | list
  deriving DecidableEq, Repr

/-- Several placeholders have commas between them and no blank. -/
def Pattern.text (p : Pattern) (ordinals : List Nat) : String :=
  let joined := String.intercalate "," (ordinals.map placeholder)
  match p with
  | .bare => joined
  | .start => joined ++ "%"
  | .stop => "%" ++ joined
  | .within => "%" ++ joined ++ "%"
  | .list => "(" ++ joined ++ ")"

structure Condition where
  key : String
  comparator : Comparator
  pattern : Pattern
  ordinals : List Nat
  deriving DecidableEq, Repr

def Condition.text (c : Condition) : String :=
  Identifier.quote c.key ++ " " ++ c.comparator.text ++ " " ++ c.pattern.text c.ordinals

end TableSql.Sql
