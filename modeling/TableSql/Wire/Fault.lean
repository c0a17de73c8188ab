import TableSql.Wire.PgType
import TableSql.Json.Mismatch
import TableSql.Binary.Reading

/-! Why a value cannot be written for a parameter, or bytes cannot be read as a value. -/

namespace TableSql.Wire

inductive Fault
  /-- A value of this kind has no form for parameters of this type. -/
  | unbindable (what : String) (type : PgType)
  /-- A numeric parameter takes a number only through the cast shown. -/
  | castRequired (shown : String)
  | timestampOutOfRange
  | narrowing (f : Decimal.IntegerFault)
  | integer (f : Decimal.IntegerFault)
  | number (f : Binary.NumberFault)
  | truthValue
  | date
  | uuid
  /-- The bytes end where more are required. -/
  | short
  | bufferSize
  | undrained (what : String)
  | uuidSize
  | tooLarge
  /-- The bytes are no text. -/
  | encoding
  | version (type : String)
  | jsonVersion
  | json (e : Json.ReadError)
  | dimensionCount
  | dimensionSize
  | elementCount
  | dimensions
  | elementLength
  | unsupported (type : PgType)
  deriving DecidableEq, Repr

/-- The text of a fault, where it has one of its own. -/
def Fault.message? : Fault → Option String
  | .unbindable what type => some ("cannot bind " ++ what ++ " to a parameter of type " ++ type.text)
  | .castRequired shown => some ("numeric parameters must be cast, e.g. " ++ shown)
  | .timestampOutOfRange => some "timestamp out of range"
  | .narrowing f => some f.message
  | .integer f => some f.message
  | .number f => some f.message
  | .truthValue => some "provided string was not `true` or `false`"
  | .date | .uuid | .short | .encoding => none
  | .bufferSize => some "invalid buffer size"
  | .undrained what => some ("invalid message length: " ++ what ++ " not drained")
  | .uuidSize => some "invalid message length: uuid size mismatch"
  | .tooLarge => some "value too large to decode"
  | .version type => some (type ++ " version 1 only supported")
  | .jsonVersion => some "unsupported JSONB encoding version"
  | .json (.mismatch m) => some m.message
  | .json (.fault _) => none
  | .dimensionCount => some "invalid dimension count"
  | .dimensionSize => some "invalid dimension size"
  | .elementCount => some "too many array elements"
  | .dimensions => some "array contains too many dimensions"
  | .elementLength => some "invalid value length"
  | .unsupported type => some ("unsupported column type: " ++ type.text)

end TableSql.Wire
