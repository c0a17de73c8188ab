import TableSql.Wire.Clock
import TableSql.Wire.Uuid
import TableSql.Text.Utf8
import TableSql.Calendar.Reading
import TableSql.Value.Json

/-! Binding: the bytes of a value for a parameter of a type. -/

namespace TableSql.Wire
open Decimal Calendar

/-- What is sent for a value; null has no bytes. -/
abbrev Bound := Except Fault (Option Bytes)

def send (bytes : Bytes) : Bound := .ok (some bytes)

def sendText (text : String) : Bound := send (Text.utf8 text)

/-- JSON text; the binary type has a version before it. -/
def sendJson (j : Json) (type : PgType) : Bound :=
  send ((if type = .scalar .jsonb then [1] else []) ++ Text.utf8 j.text)

/-- As text a number is written in plain notation only. -/
def plainLayout : Binary.Layout where
  tie := .up
  low := none
  high := none
  pointZero := false
  plus := false
  nan := "NaN"
  infinity := "inf"

def encodeBool (b : Bool) (type : PgType) : Bound :=
  match type with
  | .scalar .bool => send [if b then 1 else 0]
  | .scalar .json | .scalar .jsonb => sendJson (.bool b) type
  | .scalar s =>
    if s.isText then sendText (if b then "true" else "false")
    else .error (.unbindable "a boolean" type)
  | _ => .error (.unbindable "a boolean" type)

/-- An integer within the bounds of a narrower type. -/
def narrow (width : Nat) (i : Int) : Bound :=
  match (Bounds.signed (8 * width)).check i with
  | .ok i => send (signed width i)
  | .error f => .error (.narrowing f)

/-- A type without a rule of its own is sent the eight bytes of the integer. -/
def encodeInt (i : Int64) (type : PgType) : Bound :=
  let eight := send (signed 8 i.toInt)
  match type with
  | .scalar .int2 => narrow 2 i.toInt
  | .scalar .int4 => narrow 4 i.toInt
  | .scalar .float4 =>
    let magnitude := Binary.Format.single.nearest i.toInt.natAbs 1
    send (bigEndian 4 (Binary.Format.single.signed (decide (i.toInt < 0)) magnitude))
  | .scalar .float8 => send (bigEndian 8 (Double.ofInt i.toInt).bits.toNat)
  | .scalar .timestamptz =>
    match Instant.ofMillis? i.toInt with
    | some t => send (signed 8 (micros t))
    | none => .error .timestampOutOfRange
  | .scalar .numeric => .error (.castRequired "$1::int8")
  | .scalar s => if s.isText then sendText (signedNumeral i.toInt) else eight
  | _ => eight

/-- A type without a rule of its own is sent the eight bytes of the number. -/
def encodeFloat (d : Double) (type : PgType) : Bound :=
  let eight := send (bigEndian 8 d.bits.toNat)
  match type with
  | .scalar .float4 => send (bigEndian 4 d.toSingle.toNat)
  | .scalar .numeric => .error (.castRequired "$1::float8")
  | .scalar s => if s.isText then sendText (plainLayout.text d) else eight
  | _ => eight

/-- A type without a rule of its own is sent the microseconds. -/
def encodeTimestamp (t : Instant) (type : PgType) : Bound :=
  let eight := send (signed 8 (micros t))
  match type with
  | .scalar .date => send (signed 4 (days t.date))
  | .scalar s => if s.isText then sendText t.offsetText else eight
  | _ => eight

def required (fault : Fault) : Option α → Except Fault α
  | some a => .ok a
  | none => .error fault

/-- Text is read as the type asks; a type without a rule of its own is sent the text. -/
def encodeText (s : String) (type : PgType) : Bound :=
  let integer (width : Nat) : Bound := do
    send (signed width (← (readInteger (.signed (8 * width)) s).mapError .integer))
  match type with
  | .scalar .timestamptz => do
    send (signed 8 (micros (← required .date (Instant.ofZonedText? s))))
  | .scalar .timestamp => do
    send (signed 8 (micros (← required .date (Instant.ofLocalText? s))))
  | .scalar .date => do send (signed 4 (days (← required .date (Date.ofText? s))))
  | .scalar .uuid => do send (← required .uuid (Uuid.ofText? s))
  | .scalar .bool =>
    if s = "true" then send [1] else if s = "false" then send [0] else .error .truthValue
  | .scalar .int2 => integer 2
  | .scalar .int4 => integer 4
  | .scalar .int8 => integer 8
  | .scalar .float4 => do
    send (bigEndian 4 (← (Double.readSingle s).mapError .number).toNat)
  | .scalar .float8 => do
    send (bigEndian 8 (← (Double.read s).mapError .number).bits.toNat)
  | .scalar .json | .scalar .jsonb => sendJson (.string s) type
  | type => send ((if type.isVersioned then [1] else []) ++ Text.utf8 s)

/-- An element with its length before it; null has the length -1. -/
def elementBytes : Option Bytes → Bytes
  | none => signed 4 (-1)
  | some bytes => signed 4 bytes.length ++ bytes

/-- One dimension, whether there are nulls, the type of the elements, and the elements. -/
def arrayBytes (elementOid firstIndex : Nat) (elements : List (Option Bytes)) : Bytes :=
  signed 4 1 ++ signed 4 (if elements.any Option.isNone then 1 else 0) ++ bigEndian 4 elementOid
    ++ signed 4 elements.length ++ signed 4 firstIndex ++ elements.flatMap elementBytes

end TableSql.Wire

namespace TableSql.Value
open Wire

mutual

def encode : Value → PgType → Bound
  | .null, _ => .ok none
  | .bool b, type => encodeBool b type
  | .int i, type => encodeInt i type
  | .float d, type => encodeFloat d type
  | .timestamp t, type => encodeTimestamp t type
  | .text s, type => encodeText s type
  | .array items, .array _ firstIndex element => do
    send (arrayBytes element.oid firstIndex (← encodeItems items element))
  | .array _, type => .error (.unbindable "a list" type)
  | .json j, type => sendJson j type

def encodeItems : List Value → PgType → Except Fault (List (Option Bytes))
  | [], _ => .ok []
  | item :: rest, type => do
    let bytes ← item.encode type
    return bytes :: (← encodeItems rest type)

end

end TableSql.Value
