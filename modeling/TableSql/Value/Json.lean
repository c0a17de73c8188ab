import TableSql.Value.Basic
import TableSql.Json.Decoding

/-! Values and JSON: two ways in, which agree, and one way out. -/

namespace TableSql

namespace Json

/-- An integer that fits 64 bits with a sign. -/
def Number.toInt64? : Number → Option Int64
  | .integer i => if (Decimal.Bounds.signed 64).contains i then some (Int64.ofInt i) else none
  | .real _ => none

def Number.toDouble : Number → Double
  | .integer i => .ofInt i
  | .real d => d

end Json

namespace Value

def ofNumber (n : Json.Number) : Value :=
  match n.toInt64? with
  | some i => .int i
  | none => .float n.toDouble

mutual

/-- The value of the same shape. An object is kept as JSON. -/
def ofJson : Json → Value
  | .null => .null
  | .bool b => .bool b
  | .number n => ofNumber n
  | .string s => .text s
  | .array items => .array (ofItems items)
  | .object members => .json (.object members)

def ofItems : List Json → List Value
  | [] => []
  | item :: rest => ofJson item :: ofItems rest

end

/-- The kinds a JSON value is tried as, in this order, but for arrays and what is left. -/
def scalarTrials : List (Json → Option Value) :=
  [ fun | .null => some .null | _ => none,
    fun | .bool b => some (.bool b) | _ => none,
    fun | .number n => n.toInt64?.map .int | _ => none,
    fun | .number n => some (.float n.toDouble) | _ => none,
    fun | .string s => some (.text s) | _ => none ]

mutual

/-- The first kind of value that fits: the scalars, an array of values, and JSON of any kind. -/
def firstFit : Json → Value
  | .array items =>
    ((scalarTrials.findSome? fun trial => trial (.array items))).getD (.array (firstFits items))
  | j => (scalarTrials.findSome? fun trial => trial j).getD (.json j)

def firstFits : List Json → List Value
  | [] => []
  | item :: rest => firstFit item :: firstFits rest

end

mutual

/-- Written to JSON an instant is a text, and a float that is no finite number is null. -/
def toJson : Value → Json
  | .null => .null
  | .bool b => .bool b
  | .int i => .int i.toInt
  | .float d => if d.isFinite then .number (.real d) else .null
  | .timestamp t => .string t.text
  | .text s => .string s
  | .array items => .array (toItems items)
  | .json j => j

def toItems : List Value → List Json
  | [] => []
  | item :: rest => item.toJson :: toItems rest

end

def decoder : Json.Decoder Value := fun origin raw => (Json.Decoder.any origin raw).map firstFit

end Value

namespace Record

def toJson (r : Record) : Json := .object (r.cells.map fun (column, v) => (column, v.toJson))

def decoder : Json.Decoder Record := fun origin raw =>
  (Json.Decoder.entries Value.decoder "a map" origin raw).map ofCells

end Record

end TableSql
