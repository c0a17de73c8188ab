import TableSql.Value.Json

/-! Consumers: on whose behalf rows are written. -/

namespace TableSql

structure Consumer where
  id : Value
  name : String
  deriving Repr

namespace Consumer

def idColumn : String := "consumerId"
def nameColumn : String := "consumerName"

/-- What a consumer writes to a column, if it writes to it. -/
def cell? (c : Consumer) (column : String) : Option Value :=
  if column = idColumn then some c.id
  else if column = nameColumn then some (.text c.name)
  else none

def stamp (c : Consumer) (row : Record) : Record :=
  (row.insert idColumn c.id).insert nameColumn (.text c.name)

def toJson (c : Consumer) : Json := .object [("id", c.id.toJson), ("name", .string c.name)]

structure Draft where
  id : Option Value := none
  name : Option String := none

def shape : Json.Shape Draft Consumer where
  name := "struct Consumer"
  draft := {}
  fields :=
    [ .of "id" Value.decoder Draft.id fun d a => { d with id := some a },
      .of "name" .string Draft.name fun d a => { d with name := some a } ]
  build d := do
    let some id := d.id | throw "id"
    let some name := d.name | throw "name"
    return ⟨id, name⟩

def decoder : Json.Decoder Consumer := shape.decode

end Consumer

end TableSql
