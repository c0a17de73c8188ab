import TableSql.Decimal.Integer
import TableSql.Sql.Identifier

/-! The clauses that follow the table of a SELECT. Each is empty when there is nothing to say. -/

namespace TableSql.Sql

inductive LogicalOperator
  | and
  | or
  deriving DecidableEq, Repr

instance : Inhabited LogicalOperator := ⟨.and⟩

def LogicalOperator.text : LogicalOperator → String
  | .and => "AND"
  | .or => "OR"

inductive SortOrder
  | ascending
  | descending
  deriving DecidableEq, Repr

instance : Inhabited SortOrder := ⟨.ascending⟩

def SortOrder.text : SortOrder → String
  | .ascending => "ASC"
  | .descending => "DESC"

def whereClause (conditions : List String) (op : LogicalOperator) : String :=
  if conditions.isEmpty then ""
  else " WHERE " ++ String.intercalate (" " ++ op.text ++ " ") conditions

/-- An empty field is none. -/
def orderBy (field : Option String) (order : SortOrder) : String :=
  match field with
  | some field =>
    if field.isEmpty then "" else " ORDER BY " ++ Identifier.quote field ++ " " ++ order.text
  | none => ""

/-- A limit of zero rows is none. -/
def limit (rows : Option UInt64) (first : UInt64) : String :=
  match rows with
  | some rows =>
    if rows = 0 then ""
    else
      " LIMIT " ++ Decimal.numeral rows.toNat ++ " OFFSET " ++ Decimal.numeral first.toNat
  | none => ""

end TableSql.Sql
