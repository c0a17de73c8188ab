import TableSql.Property.Kind

/-! Properties: what a table is described by. -/

namespace TableSql

inductive Operation
  | select
  | insert
  | update
  | delete
  deriving DecidableEq, Repr

namespace Operation

def all : List Operation := [.select, .insert, .update, .delete]

def name : Operation → String
  | .select => "SELECT"
  | .insert => "INSERT"
  | .update => "UPDATE"
  | .delete => "DELETE"

def decoder : Json.Decoder Operation := .choice (all.map fun o => (o.name, o))

end Operation

/-- A column of a table under its key, with the kinds of statement it takes part in. -/
structure Property where
  key : String
  type : PropertyType
  filterable : Bool
  operations : List Operation
  deriving DecidableEq, Repr

namespace Property

/-- A filterable property that takes part in every kind of statement. -/
def ofKey (key : String) (type : PropertyType) : Property := ⟨key, type, true, Operation.all⟩

/-- Replaces the kinds of statement; they stand in their usual order, each once. -/
def withOperations (p : Property) (operations : List Operation) : Property :=
  { p with operations := Operation.all.filter operations.contains }

def allows (p : Property) (o : Operation) : Bool := p.operations.contains o

def kind (p : Property) : Kind := p.type.kind

def toJson (p : Property) : Json :=
  .object
    [ ("key", .string p.key),
      ("type", .string p.type.name),
      ("filterable", .bool p.filterable),
      ("operations", .array (p.operations.map fun o => .string o.name)) ]

structure Draft where
  key : Option String := none
  type : Option PropertyType := none
  filterable : Option Bool := none
  operations : Option (List Operation) := none

/-- A property needs a key and a type. What is read is kept as it is given, repeats included. -/
def shape : Json.Shape Draft Property where
  name := "struct Property"
  draft := {}
  fields :=
    [ .of "key" .string Draft.key fun d a => { d with key := some a },
      .of "type" PropertyType.decoder Draft.type fun d a => { d with type := some a },
      .of "filterable" .bool Draft.filterable fun d a => { d with filterable := some a },
      .of "operations" (.sequence Operation.decoder) Draft.operations fun d a =>
        { d with operations := some a } ]
  build d := do
    let some key := d.key | throw "key"
    let some type := d.type | throw "type"
    let default := ofKey key type
    return ⟨key, type, d.filterable.getD default.filterable,
      d.operations.getD default.operations⟩

def decoder : Json.Decoder Property := shape.decode

end Property

end TableSql
