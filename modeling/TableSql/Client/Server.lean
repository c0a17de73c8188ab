import TableSql.Client.Session
import TableSql.Wire.Decoding

/-! A server that follows a script for one statement, and the ways to reach it. -/

namespace TableSql

/-- What a server does with a statement. -/
structure Script where
  parameters : List Wire.PgType
  columns : List (String × Wire.PgType)
  rows : List (List (Option Wire.Bytes))
  /-- The tag at the end, if the statement was not empty. -/
  tag : Option String
  prepareError : Option ServerError
  executeError : Option ServerError

/-- When a connection is taken from the pool, if there is one. -/
inductive Pooling
  | none
  | before
  | onQuery
  deriving DecidableEq, Repr

structure Route where
  pooling : Pooling
  transaction : Bool
  deriving DecidableEq, Repr

/-- What a server has seen: statements, and the parameters of those that were run. -/
structure Seen where
  statements : List String
  bound : List (List (Option Wire.Bytes))
  deriving DecidableEq, Repr

namespace Script

/-- The bytes of the arguments; `index` counts them from zero. -/
def bind : Nat → List Wire.PgType → List Value → Except Error (List (Option Wire.Bytes))
  | index, type :: types, arg :: args =>
    match arg.encode type with
    | .error _ => .error (.query (.parameter index))
    | .ok bytes => return bytes :: (← bind (index + 1) types args)
  | _, _, _ => .ok []

/-- The cells of one row; `index` counts the columns from zero. -/
def readCells : Nat → List (String × Wire.PgType) → List (Option Wire.Bytes) →
    Except Error (List (String × Value))
  | index, (name, type) :: columns, bytes :: rest =>
    match Value.decodeNullable type bytes with
    | .error _ =>
      .error (.decode name ("error deserializing column " ++ Decimal.numeral index))
    | .ok v => return (name, v) :: (← readCells (index + 1) columns rest)
  | _, _, _ => .ok []

def readRow (s : Script) (row : List (Option Wire.Bytes)) : Except Error Record :=
  (readCells 0 s.columns row).map Record.ofCells

/-- The last word of a tag is the number of rows, and zero if it is no number. -/
def affected (tag : String) : UInt64 :=
  let word := (tag.toList.reverse.takeWhile (· ≠ ' ')).reverse
  match Decimal.readInteger (.unsigned 64) (String.ofList word) with
  | .ok n => UInt64.ofNat n.toNat
  | .error _ => 0

/-- The rows are read one by one, and only then is it known whether the statement succeeded. -/
def reply (s : Script) : Except Error Reply := do
  let rows ← s.rows.mapM s.readRow
  if let some e := s.executeError then throw e.toError
  return {
    rows
    affected := s.tag.map affected
    columns := if rows.isEmpty then [] else s.columns.map Prod.fst }

/-- Prepares a statement, binds its arguments, and runs it. -/
def query (s : Script) (statement : Statement) (seen : Seen) : Except Error Reply × Seen :=
  let seen := { seen with statements := seen.statements ++ [statement.text] }
  match s.prepareError with
  | some e => (.error e.toError, seen)
  | none =>
    if statement.args.length ≠ s.parameters.length then
      (.error (.query (.parameterCount s.parameters.length statement.args.length)), seen)
    else match bind 0 s.parameters statement.args with
      | .error e => (.error e, seen)
      | .ok bytes => (s.reply, { seen with bound := seen.bound ++ [bytes] })

/-- What the server has seen when a route is open, if it can be opened; `pool` is what is wrong
with the pool. -/
def reach (route : Route) (pool : Option PoolFault) : Except Error Seen :=
  match route.pooling, pool with
  | .before, some fault => .error (.pool fault)
  | _, _ => .ok ⟨if route.transaction then ["START TRANSACTION"] else [], []⟩

def client (s : Script) (route : Route) (pool : Option PoolFault) : Client Seen where
  query statement seen :=
    match route.pooling, pool with
    | .onQuery, some fault => (.error (.pool fault), seen)
    | _, _ => s.query statement seen

end Script

end TableSql
