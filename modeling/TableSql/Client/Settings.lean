import TableSql.Client.Error
import TableSql.Json.Decoding

/-! Settings of connections, read from named variables or from JSON. -/

namespace TableSql

structure Settings where
  host : String
  user : String
  password : String
  database : String
  port : UInt16
  /-- The greatest number of connections in the pool. -/
  maxSize : UInt64
  deriving DecidableEq, Repr

inductive Host
  | tcp (name : String)
  | unix (path : String)
  deriving DecidableEq, Repr

namespace Settings

def default : Settings := ⟨"localhost", "postgres", "", "postgres", 5432, 10⟩

/-- A variable that holds a number within bounds. -/
def readNumber (variableName : String) (b : Decimal.Bounds) (value : String) : Except Error Nat :=
  match Decimal.readInteger b value with
  | .ok n => .ok n.toNat
  | .error fault => .error (.config (.number variableName value fault))

/-- The settings that variables give; what they do not give has its default. -/
def ofVariables (lookup : String → Option String) : Except Error Settings := do
  let port ← match lookup "DB_PORT" with
    | some value => UInt16.ofNat <$> readNumber "DB_PORT" (.unsigned 16) value
    | none => pure default.port
  let maxSize ← match lookup "DB_MAX" with
    | some value => UInt64.ofNat <$> readNumber "DB_MAX" (.unsigned 64) value
    | none => pure default.maxSize
  if maxSize = 0 then throw (.config .emptyPool)
  return {
    host := (lookup "DB_HOST").getD default.host
    user := (lookup "DB_USER").getD default.user
    password := (lookup "DB_PWD").getD default.password
    database := (lookup "DB_NAME").getD default.database
    port
    maxSize }

/-- A host that is a path is a socket of the file system. -/
def address (s : Settings) : Host :=
  if s.host.toList.head? = some '/' then .unix s.host else .tcp s.host

/-- An empty password is none. -/
def password? (s : Settings) : Option String :=
  if s.password.isEmpty then none else some s.password

def toJson (s : Settings) : Json :=
  .object
    [ ("host", .string s.host),
      ("user", .string s.user),
      ("password", .string s.password),
      ("dbname", .string s.database),
      ("port", .nat s.port.toNat),
      ("max_size", .nat s.maxSize.toNat) ]

structure Draft where
  host : Option String := none
  user : Option String := none
  password : Option String := none
  database : Option String := none
  port : Option UInt16 := none
  maxSize : Option UInt64 := none

def shape : Json.Shape Draft Settings where
  name := "struct DbConfig"
  draft := {}
  fields :=
    [ .of "host" .string Draft.host fun d a => { d with host := some a },
      .of "user" .string Draft.user fun d a => { d with user := some a },
      .of "password" .string Draft.password fun d a => { d with password := some a },
      .of "dbname" .string Draft.database fun d a => { d with database := some a },
      .of "port" (.uint16 "u16") Draft.port fun d a => { d with port := some a },
      .of "max_size" (.uint64 "usize") Draft.maxSize fun d a => { d with maxSize := some a } ]
  build d := .ok
    { host := d.host.getD default.host
      user := d.user.getD default.user
      password := d.password.getD default.password
      database := d.database.getD default.database
      port := d.port.getD default.port
      maxSize := d.maxSize.getD default.maxSize }

def decoder : Json.Decoder Settings := shape.decode

end Settings

end TableSql
