import TableSql.Client.ConnectionString
import TableSql.Client.Settings

/-! Pools of connections: what they connect to, and how many connections they hold. -/

namespace TableSql

structure Pool where
  settings : List ConnectionString.Setting
  maxSize : UInt64
  deriving DecidableEq, Repr

namespace Pool

def ofSettings (s : Settings) : Pool where
  settings :=
    [ ("host", s.host), ("user", s.user), ("dbname", s.database),
      ("port", Decimal.numeral s.port.toNat) ]
    ++ (s.password?.map ("password", ·)).toList
  maxSize := s.maxSize

def ofConnectionString (text : String) (maxSize : UInt64) : Except Error Pool :=
  match ConnectionString.read text with
  | .ok settings => .ok ⟨settings, maxSize⟩
  | .error _ => .error (.connection .connectionString)

end Pool

end TableSql
