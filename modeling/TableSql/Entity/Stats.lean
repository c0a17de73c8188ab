import TableSql.Property.Basic

/-! What an entity consists of: its properties counted and listed by kind of statement. -/

namespace TableSql

structure Stats where
  name : String
  table : String
  properties : Nat
  /-- How often each kind of statement is named, where it is. -/
  distribution : List (Operation × Nat)
  /-- The keys of the properties that name each kind of statement. -/
  mappings : List (Operation × List String)
  deriving DecidableEq, Repr

namespace Stats

/-- The key of each property, once for each time that it names a kind of statement. -/
def keysOf (o : Operation) (properties : List Property) : List String :=
  properties.flatMap fun p => List.replicate (p.operations.count o) p.key

def ofProperties (name table : String) (properties : List Property) : Stats where
  name
  table
  properties := properties.length
  distribution := Operation.all.filterMap fun o =>
    match keysOf o properties with
    | [] => none
    | keys => some (o, keys.length)
  mappings := Operation.all.map fun o => (o, keysOf o properties)

def toJson (s : Stats) : Json :=
  .object
    [ ("name", .string s.name),
      ("table", .string s.table),
      ("totalProperties", .nat s.properties),
      ("operationDistribution", .object (s.distribution.map fun (o, n) => (o.name, .nat n))),
      ("crudMappings", .object
        (s.mappings.map fun (o, keys) => (o.name, .array (keys.map .string)))) ]

def list (items : List String) : String := "[" ++ String.intercalate ", " items ++ "]"

/-- The lines on one property; `branch` hangs it on the tree and `rail` continues the tree. -/
def propertyLines (branch rail : String) (p : Property) : List String :=
  [ "│  " ++ branch ++ " " ++ p.key ++ ":",
    "│  " ++ rail ++ "   ├─ Type: " ++ p.type.name,
    "│  " ++ rail ++ "   ├─ Operations: " ++ list (p.operations.map Operation.name),
    "│  " ++ rail ++ "   └─ Filterable: " ++ (if p.filterable then "true" else "false") ]

/-- The last property ends its branch of the tree. -/
def detailLines : List Property → List String
  | [] => []
  | [p] => propertyLines "└─" " " p
  | p :: rest => propertyLines "├─" "│" p ++ detailLines rest

def summary (s : Stats) (properties : List Property) : String :=
  String.intercalate "\n" <|
    [ "┌─ SQLEntity: \"" ++ s.name ++ "\" (Table: " ++ s.table ++ ")",
      "├─ Total Properties: " ++ Decimal.numeral s.properties,
      "├─ Operation Distribution:" ]
    ++ s.distribution.map (fun (o, n) =>
      "│  └─ " ++ o.name ++ ": " ++ Decimal.numeral n ++ " properties")
    ++ ["├─ Property Details:"]
    ++ detailLines properties
    ++ ["├─ CRUD Mappings:"]
    ++ s.mappings.map (fun (o, keys) => "│  ├─ " ++ o.name ++ ": " ++ list keys)
    ++ ["└─ Entity initialization completed"]

end Stats

end TableSql
