import TableSql.Json.Basic
import TableSql.Calendar.Instant

/-! The values that statements bind and rows hold, and records of them by column. -/

namespace TableSql

/-- A dynamically typed value. -/
inductive Value
  | null
  | bool (b : Bool)
  | int (i : Int64)
  | float (d : Double)
  | timestamp (t : Calendar.Instant)
  | text (s : String)
  | array (items : List Value)
  | json (j : Json)
  deriving Repr

namespace Value

instance : Inhabited Value := ⟨.null⟩

def isNull : Value → Bool
  | .null => true
  | _ => false

def asText? : Value → Option String
  | .text s => some s
  | _ => none

/-- The nearest integer of 64 bits. -/
def saturate (i : Int) : Int64 :=
  match (Decimal.Bounds.signed 64).check i with
  | .ok i => Int64.ofInt i
  | .error .tooSmall => Int64.minValue
  | .error _ => Int64.maxValue

/-- The integer that a number or a numeral stands for. A number out of range stands for the
nearest integer, one with a fractional part for none. -/
def asInt? : Value → Option Int64
  | .int i => some i
  | .float d => d.toInt?.map saturate
  | .text s => ((Decimal.readInteger (.signed 64) s).toOption).map Int64.ofInt
  | _ => none

def typeName : Value → String
  | .null => "null"
  | .bool _ => "bool"
  | .int _ => "int"
  | .float _ => "float"
  | .timestamp _ => "timestamp"
  | .text _ => "text"
  | .array _ => "array"
  | .json _ => "json"

end Value

/-- A row: a value for each of some columns, sorted by the column's name. -/
structure Record where
  cells : List (String × Value)
  sorted : Entries.Sorted cells
  deriving Repr

namespace Record

def empty : Record := ⟨[], Entries.sorted_nil⟩

def get? (r : Record) (column : String) : Option Value := Entries.get? column r.cells

/-- The value of a column, null where the row has none. -/
def get (r : Record) (column : String) : Value := (r.get? column).getD .null

def contains (r : Record) (column : String) : Bool := (r.get? column).isSome

def insert (r : Record) (column : String) (v : Value) : Record :=
  ⟨Entries.insert column v r.cells, Entries.sorted_insert column v r.sorted⟩

def erase (r : Record) (column : String) : Record :=
  ⟨Entries.erase column r.cells, Entries.sorted_erase column r.sorted⟩

/-- The row of some cells; of several with one name the last counts. -/
def ofCells (cells : List (String × Value)) : Record :=
  ⟨Entries.sorted cells, Entries.sorted_sorted cells⟩

theorem get?_insert_self (r : Record) (column : String) (v : Value) :
    (r.insert column v).get? column = some v :=
  Entries.get?_insert_self column v r.cells

theorem get?_insert_of_ne (r : Record) {column other : String} (v : Value)
    (h : other ≠ column) : (r.insert column v).get? other = r.get? other :=
  Entries.get?_insert_of_ne v r.cells h

end Record

end TableSql
