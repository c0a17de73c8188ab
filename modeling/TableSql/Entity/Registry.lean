import TableSql.Property.Basic
import TableSql.Sql.Column
import TableSql.Statement.Consumer

/-! The columns of a table by kind of statement. -/

namespace TableSql

structure Registry where
  select : Sql.Columns
  insert : Sql.Columns
  update : Sql.Columns
  deriving Repr

namespace Registry

def empty : Registry := ⟨.empty, .empty, .empty⟩

/-- Rows are deleted by their ids alone, so that no column takes part in it. -/
def register (r : Registry) (key : String) : Operation → Registry
  | .select => { r with select := r.select.add key }
  | .insert => { r with insert := r.insert.add key }
  | .update => { r with update := r.update.add key }
  | .delete => r

def registerProperty (r : Registry) (p : Property) : Registry :=
  p.operations.foldl (fun r o => r.register p.key o) r

def ofProperties (properties : List Property) : Registry :=
  properties.foldl registerProperty empty

/-- The names of the columns that a kind of statement can concern; whoever writes rows may also
write the consumer. -/
def columns (r : Registry) : Operation → List String
  | .select => r.select.keys
  | .insert => r.insert.keys ++ [Consumer.idColumn, Consumer.nameColumn]
  | .update => r.update.keys ++ [Consumer.idColumn, Consumer.nameColumn]
  | .delete => []

end Registry

end TableSql
