import TableSql.Statement.Basic

/-! What statements that write rows do to a table, apart from how they are written. -/

namespace TableSql

namespace Sql

/-- The value that an assignment gives to a row, by ordinal: that of the first branch whose id is
the row's. `isId` says which ordinals hold the id of the row. -/
def Assignment.value? (a : Assignment) (isId : Nat → Bool) : Option Nat :=
  (a.branches.find? fun branch => isId branch.1).map Prod.snd

def Update.concerns (u : Update) (isId : Nat → Bool) : Bool := u.ids.any isId

/-- A row after an update. Without a value for it a column stays as it is. -/
def Update.apply (u : Update) (arg : Nat → Value) (isId : Nat → Bool) (row : Record) : Record :=
  if u.concerns isId then
    u.assignments.foldl (fun changed a =>
      match a.value? isId with
      | some ordinal => changed.insert a.column (arg ordinal)
      | none => changed) row
  else row

/-- The values of each new row in the order of the columns. -/
def Insert.values (i : Insert) (arg : Nat → Value) : List (List Value) :=
  i.tuples.map fun ordinals => ordinals.map arg

end Sql

/-- When the id of a row is the same as an argument. Null is the same as nothing. -/
structure SameId where
  test : Value → Value → Bool
  null_right : ∀ v, test v .null = false

namespace Statement

/-- Which ordinals of a statement hold the id of a row. -/
def holdsId (s : Statement) (same : SameId) (row : Record) (ordinal : Nat) : Bool :=
  same.test (row.get Sql.idColumn) (s.arg ordinal)

/-- Ordinals refer to all arguments of a statement, and to nothing else. -/
def Binds (s : Statement) (ordinals : List Nat) : Prop :=
  ∀ n, n ∈ ordinals ↔ 0 < n ∧ n ≤ s.args.length

/-- Adds at least one row, each with a value for every column. A server that counts parameters takes
the statement. -/
structure AddsRows (s : Statement) (i : Sql.Insert) : Prop where
  command : s.command = .insert i
  rows : i.tuples ≠ []
  width : ∀ tuple ∈ i.tuples, tuple.length = i.columns.length
  binds : s.Binds i.ordinals

/-- Changes at least one column for at least one id. -/
structure ChangesRows (s : Statement) (u : Sql.Update) : Prop where
  command : s.command = .update u
  columns : u.assignments ≠ []
  ids : u.ids ≠ []
  binds : s.Binds u.ordinals

end Statement

end TableSql
