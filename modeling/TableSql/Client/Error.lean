import TableSql.Decimal.Integer
import TableSql.Text.Quoted

/-! What can go wrong between a request and its rows. -/

namespace TableSql

/-- What is wrong with the description of a table, or with the rows to be written. -/
inductive Invalid
  | blankTable
  | zeroChunkSize
  | notArchivable (entity : String)
  | nothingToUpdate (entity : String)
  | stated (text : String)
  deriving DecidableEq, Repr

def Invalid.message : Invalid → String
  | .blankTable => "table must be a string of length > 0"
  | .zeroChunkSize => "chunk_size must be greater than 0"
  | .notArchivable entity => "entity " ++ entity ++ " has no updatable `archived` property"
  | .nothingToUpdate entity => "no updatable column of " ++ entity ++ " in rows"
  | .stated text => text

inductive BadSetting
  | number (variableName value : String) (fault : Decimal.IntegerFault)
  | emptyPool
  | stated (text : String)
  deriving DecidableEq, Repr

def BadSetting.message : BadSetting → String
  | .number variableName value fault =>
    variableName ++ "=" ++ Text.quoted value ++ ": " ++ fault.message
  | .emptyPool => "DB_MAX must be greater than 0"
  | .stated text => text

inductive ConnectionFault
  | connectionString
  | stated (text : String)
  deriving DecidableEq, Repr

def ConnectionFault.message : ConnectionFault → String
  | .connectionString => "invalid connection string"
  | .stated text => text

inductive PoolFault
  | refused
  | closed
  | stated (text : String)
  deriving DecidableEq, Repr

def PoolFault.message : PoolFault → String
  | .refused => "Error occurred while creating a new object: db error"
  | .closed => "Pool has been closed"
  | .stated text => text

/-- Why a statement failed that no constraint stopped. -/
inductive QueryFault
  /-- The server refused it, and said why. -/
  | refused (reason : String)
  | parameterCount (expected given : Nat)
  /-- A parameter, counted from zero, has no form in its type. -/
  | parameter (index : Nat)
  deriving DecidableEq, Repr

def QueryFault.message : QueryFault → String
  | .refused _ => "db error"
  | .parameterCount expected given =>
    "expected " ++ Decimal.numeral expected ++ " parameters but got " ++ Decimal.numeral given
  | .parameter index => "error serializing parameter " ++ Decimal.numeral index

/-- The fault in the server's words, where it has any. -/
def QueryFault.reason : QueryFault → String
  | .refused reason => reason
  | fault => fault.message

inductive OtherFault
  /-- The server answered new rows with another number of ids. -/
  | idCount (table : String) (ids rows : Nat)
  | stated (text : String)
  deriving DecidableEq, Repr

def OtherFault.message : OtherFault → String
  | .idCount table ids rows =>
    "INSERT into " ++ table ++ " returned " ++ Decimal.numeral ids ++ " ids for "
      ++ Decimal.numeral rows ++ " rows"
  | .stated text => text

inductive Error
  | connection (f : ConnectionFault)
  | query (f : QueryFault)
  /-- What a client answered to a statement. -/
  | backend (source : Error)
  | notFound (text : String)
  | uniqueViolation (text : String)
  | foreignKeyViolation (text : String)
  | checkViolation (text : String)
  | decode (column text : String)
  | validation (i : Invalid)
  | config (b : BadSetting)
  | pool (f : PoolFault)
  | other (f : OtherFault)
  deriving DecidableEq, Repr

namespace Error

/-- The server's own words stand for what it refused. -/
def message : Error → String
  | .connection f => "Connection error: " ++ f.message
  | .query f => "Query error: " ++ f.message
  | .backend (.query f) => "Postgres error: " ++ f.reason
  | .backend source => "Postgres error: " ++ source.message
  | .notFound text => "Not found: " ++ text
  | .uniqueViolation text => "Unique constraint violation: " ++ text
  | .foreignKeyViolation text => "Foreign key violation: " ++ text
  | .checkViolation text => "Check constraint violation: " ++ text
  | .decode column text => "Decode error on column '" ++ column ++ "': " ++ text
  | .validation i => "Validation error: " ++ i.message
  | .config b => "Configuration error: " ++ b.message
  | .pool f => "Pool error: " ++ f.message
  | .other f => f.message

def isNotFound : Error → Bool
  | .notFound _ => true
  | _ => false

def isBackend : Error → Bool
  | .backend _ => true
  | _ => false

/-- Whether a unique constraint is the reason, however deep it lies. -/
def isUniqueViolation : Error → Bool
  | .uniqueViolation _ => true
  | .backend source => source.isUniqueViolation
  | _ => false

end Error

/-- What a server says when it refuses a statement. -/
structure ServerError where
  code : String
  message : String
  constraint : Option String
  deriving DecidableEq, Repr

/-- The codes of violated constraints have errors of their own. -/
def ServerError.toError (e : ServerError) : Error :=
  let text := e.constraint.getD "unknown" ++ ": " ++ e.message
  match e.code with
  | "23505" => .uniqueViolation text
  | "23503" => .foreignKeyViolation text
  | "23514" => .checkViolation text
  | _ => .query (.refused e.message)

end TableSql
