import TableSql.Sql.Identifier

/-! Columns, and the columns that take part in a kind of statement. -/

namespace TableSql.Sql

/-- A column that rows name by `key` and statements write as `sql`. -/
structure Column where
  key : String
  sql : String
  deriving DecidableEq, Repr

namespace Column

/-- A column written as an identifier. -/
def named (key : String) : Column := ⟨key, Identifier.quote key⟩

/-- A column written as its key, without quotes. -/
def bare (key : String) : Column := ⟨key, key⟩

end Column

/-- Distinct keys in the order they were added. -/
structure Columns where
  keys : List String
  distinct : keys.Nodup
  deriving Repr

namespace Columns

theorem nodup_nil : ([] : List String).Nodup := List.Pairwise.nil

def empty : Columns := ⟨[], nodup_nil⟩

/-- Adds a key at the end; a key that is there already is not added again. -/
def add (columns : Columns) (key : String) : Columns :=
  if h : key ∈ columns.keys then columns
  else
    { keys := columns.keys ++ [key]
      distinct := by
        refine List.pairwise_append.2 ⟨columns.distinct, List.pairwise_singleton _ _, ?_⟩
        rintro a ha b hb rfl
        exact h ((List.mem_singleton.1 hb) ▸ ha) }

def toList (columns : Columns) : List Column := columns.keys.map Column.named

def sql (columns : Columns) : List String := columns.toList.map Column.sql

theorem keys_add_of_mem {columns : Columns} {key : String} (h : key ∈ columns.keys) :
    (columns.add key).keys = columns.keys := by
  simp [add, h]

theorem keys_add_of_not_mem {columns : Columns} {key : String} (h : key ∉ columns.keys) :
    (columns.add key).keys = columns.keys ++ [key] := by
  simp [add, h]

end Columns

def commaList (parts : List String) : String := String.intercalate ", " parts

end TableSql.Sql
