import TableSql.Sql.Clause
import TableSql.Sql.Comparison

/-! Commands of SQL, with the ordinals of their arguments, and their texts. -/

namespace TableSql.Sql

/-- The rows of a table that meet all conditions, in an order and within limits. -/
structure Select where
  columns : List String
  /-- Whether each row carries the number of all rows that meet the conditions. -/
  counted : Bool
  table : String
  conditions : List Condition
  sortField : Option String
  sortOrder : SortOrder
  rows : Option UInt64
  first : UInt64
  deriving Repr

def totalColumn : String := "total"

/-- All columns, where none is named. -/
def Select.head (columns : List String) (counted : Bool) (table : String) : String :=
  "SELECT " ++ (if columns.isEmpty then "*" else commaList columns)
    ++ (if counted then ", COUNT(*) OVER () AS " ++ totalColumn else "")
    ++ " FROM " ++ Identifier.quote table

def Select.text (s : Select) : String :=
  Select.head s.columns s.counted s.table
    ++ whereClause (s.conditions.map Condition.text) .and
    ++ orderBy s.sortField s.sortOrder
    ++ limit s.rows s.first

/-- A row for each tuple of arguments. -/
structure Insert where
  table : String
  columns : List String
  tuples : List (List Nat)
  returning : Option String
  deriving Repr

def piecesBetweenQuotes : List Char → List (List Char)
  | [] => [[]]
  | c :: rest =>
    if c = '"' then [] :: piecesBetweenQuotes rest
    else match piecesBetweenQuotes rest with
      | [] => [[c]]
      | piece :: pieces => (c :: piece) :: pieces

/-- The clause that asks for a column of the new rows. The column is always quoted. -/
def returningClause (column : String) : String :=
  "RETURNING \"" ++ String.ofList (['"', '"'].intercalate (piecesBetweenQuotes column.toList))
    ++ "\""

def Insert.ordinals (i : Insert) : List Nat := i.tuples.flatten

def Insert.text (i : Insert) : String :=
  "INSERT INTO " ++ Identifier.quote i.table ++ " (" ++ commaList i.columns ++ ") VALUES "
    ++ commaList (i.tuples.map fun ordinals => "(" ++ placeholders ordinals ++ ")")
    ++ match i.returning with
      | some clause => " " ++ clause
      | none => ""

def idColumn : String := "id"

/-- A new value for a column: of the branches, each an id and a value, the first whose id is the
row's counts; a row of another id keeps its value. -/
structure Assignment where
  column : String
  branches : List (Nat × Nat)
  deriving Repr

/-- Each branch names an id and a value. -/
def Assignment.ordinals (a : Assignment) : List Nat :=
  a.branches.flatMap fun branch => [branch.1, branch.2]

def Assignment.text (a : Assignment) : String :=
  a.column ++ " = CASE"
    ++ String.join (a.branches.map fun (id, value) =>
      " WHEN " ++ idColumn ++ " = " ++ placeholder id ++ " THEN " ++ placeholder value)
    ++ " ELSE " ++ a.column ++ " END"

/-- Assignments to the rows that have one of the ids. -/
structure Update where
  table : String
  assignments : List Assignment
  ids : List Nat
  deriving Repr

def Update.ordinals (u : Update) : List Nat := u.assignments.flatMap Assignment.ordinals ++ u.ids

def Update.text (u : Update) : String :=
  "UPDATE " ++ Identifier.quote u.table ++ " SET " ++ commaList (u.assignments.map Assignment.text)
    ++ " WHERE " ++ idColumn ++ " IN (" ++ placeholders u.ids ++ ")"

def archivedAtColumn : String := "archivedAt"

/-- Which rows are deleted: those whose id is in a list, or those archived before a time. Both are
the first argument. -/
inductive DeleteCondition
  | listed
  | archivedBefore
  deriving DecidableEq, Repr

structure Delete where
  table : String
  condition : DeleteCondition
  deriving Repr

def Delete.text (d : Delete) : String :=
  "DELETE FROM " ++ Identifier.quote d.table ++ " WHERE "
    ++ match d.condition with
      | .listed => idColumn ++ " = ANY(" ++ placeholder 1 ++ ")"
      | .archivedBefore => Identifier.quote archivedAtColumn ++ " < " ++ placeholder 1

inductive Command
  | select (s : Select)
  | insert (i : Insert)
  | update (u : Update)
  | delete (d : Delete)
  /-- A command given as text. -/
  | verbatim (text : String)
  deriving Repr

def Command.text : Command → String
  | .select s => s.text
  | .insert i => i.text
  | .update u => u.text
  | .delete d => d.text
  | .verbatim text => text

end TableSql.Sql
