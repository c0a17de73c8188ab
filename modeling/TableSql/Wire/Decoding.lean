import TableSql.Wire.Encoding

/-! Reading: the value that bytes of a column of a type stand for. -/

namespace TableSql.Wire
open Calendar

def decodeText (bytes : Bytes) : Except Fault Value :=
  match Text.ofUtf8? bytes with
  | some s => .ok (.text s)
  | none => .error .encoding

/-- Text after the version byte of an extension type. -/
def decodeVersioned (type : PgType) (bytes : Bytes) : Except Fault Value :=
  match bytes with
  | 1 :: rest => decodeText rest
  | _ => .error (.version type.typeName.name)

/-- A type without a rule of its own is read as text, if at all. -/
def decodeNamed (type : PgType) (bytes : Bytes) : Except Fault Value :=
  if !type.isTextual then .error (.unsupported type)
  else if type.isVersioned then decodeVersioned type bytes
  else decodeText bytes

def decodeJson (bytes : Bytes) : Except Fault Value :=
  ((Json.Decoder.any.run (Text.decode bytes)).mapError .json).map .json

def decodeInteger (width : Nat) (bytes : Bytes) : Except Fault Value := do
  return .int (Int64.ofInt (ofSigned (← exactly width .bufferSize bytes)))

def decodeInstant (bytes : Bytes) : Except Fault Value := do
  return .timestamp (← ofMicros (ofSigned (← exactly 8 (.undrained "timestamp") bytes)))

def decodeScalar (s : Scalar) (bytes : Bytes) : Except Fault Value :=
  match s with
  | .bool =>
    match bytes with
    | [b] => .ok (.bool (b ≠ 0))
    | _ => .error .bufferSize
  | .int2 => decodeInteger 2 bytes
  | .int4 => decodeInteger 4 bytes
  | .int8 => decodeInteger 8 bytes
  | .oid => do return .int (Int64.ofInt (ofBigEndian (← exactly 4 .bufferSize bytes)))
  | .float4 => do
    return .float (.ofSingle (UInt32.ofNat (ofBigEndian (← exactly 4 .bufferSize bytes))))
  | .float8 => do return .float (.ofBits (ofBigEndian (← exactly 8 .bufferSize bytes)))
  | .timestamptz | .timestamp => decodeInstant bytes
  | .date => do
    return .text (← ofDays (ofSigned (← exactly 4 (.undrained "date") bytes))).text
  | .uuid => if bytes.length = 16 then .ok (.text (Uuid.text bytes)) else .error .uuidSize
  | .json => decodeJson bytes
  | .jsonb =>
    match bytes with
    | [] => .error .short
    | 1 :: rest => decodeJson rest
    | _ => .error .jsonVersion
  | .text | .varchar | .bpchar | .name | .unknown => decodeText bytes
  | .numeric => .error (.unsupported (.scalar .numeric))

/-- The lengths of so many dimensions, their product, which must fit four bytes, and the rest. -/
def takeDimensions : Nat → Int → Bytes → Except Fault (Int × Bytes)
  | 0, product, bytes => .ok (product, bytes)
  | count + 1, product, bytes => do
    let (length, rest) ← takeInt bytes
    if length < 0 then throw .dimensionSize
    let (_, rest) ← takeInt rest
    if twoPow 31 ≤ product * length then throw .elementCount
    takeDimensions count (product * length) rest

/-- The number of elements of an array of at most one dimension, and their bytes. -/
def takeHeader (bytes : Bytes) : Except Fault (Nat × Bytes) := do
  let (dimensions, rest) ← takeInt bytes
  if dimensions < 0 then throw .dimensionCount
  let (_, rest) ← takeInt rest
  let (_, rest) ← take 4 rest
  let (product, rest) ← takeDimensions dimensions.toNat 1 rest
  if 1 < dimensions then throw .dimensions
  return (if dimensions = 0 then 0 else product.toNat, rest)

/-- The bytes of one element, and the rest; a negative length is null. -/
def takeElement (bytes : Bytes) : Except Fault (Option Bytes × Bytes) := do
  let (length, rest) ← takeInt bytes
  if length < 0 then return (none, rest)
  else if rest.length < length.toNat then throw .elementLength
  else return (some (rest.take length.toNat), rest.drop length.toNat)

/-- Elements in order, each read before the next is looked for; nothing may follow the last. -/
def decodeElements (decode : Bytes → Except Fault Value) :
    Nat → Bytes → Except Fault (List Value)
  | 0, [] => .ok []
  | 0, _ => .error (.undrained "arrayvalue")
  | count + 1, bytes => do
    let (element, rest) ← takeElement bytes
    let value ← match element with
      | none => pure .null
      | some bytes => decode bytes
    return value :: (← decodeElements decode count rest)

end TableSql.Wire

namespace TableSql.Value
open Wire

def decode : PgType → Bytes → Except Fault Value
  | .scalar s, bytes => decodeScalar s bytes
  | .array _ _ element, bytes => do
    let (count, rest) ← takeHeader bytes
    return .array (← decodeElements (decode element) count rest)
  | .enum name, bytes => decodeNamed (.enum name) bytes
  | .other name, bytes => decodeNamed (.other name) bytes

/-- A column's value, which may be null whatever its type. -/
def decodeNullable (type : PgType) : Option Bytes → Except Fault Value
  | none => .ok .null
  | some bytes => decode type bytes

end TableSql.Value
