import TableSql.Json.Raw
import TableSql.Text.Quoted

/-! Why a JSON value is not of the kind that is asked for. -/

namespace TableSql.Json

/-- The kind of a value that was found, with a scalar's content. -/
inductive Found
  | null
  | bool (b : Bool)
  | number (n : Number)
  | string (s : String)
  | sequence
  | map
  deriving DecidableEq, Repr

def Found.text : Found → String
  | .null => "null"
  | .bool b => "boolean `" ++ (if b then "true" else "false") ++ "`"
  | .number (.integer i) => "integer `" ++ Decimal.signedNumeral i ++ "`"
  | .number (.real d) => "floating point `" ++ layout.text d ++ "`"
  | .string s => "string " ++ Text.quoted s
  | .sequence => "sequence"
  | .map => "map"

inductive Mismatch
  | kind (found : Found) (expected : String)
  | value (found : Found) (expected : String)
  | length (count : Nat) (expected : String)
  | variant (name : String) (known : List String)
  | missing (field : String)
  | duplicate (field : String)
  deriving DecidableEq, Repr

def Mismatch.message : Mismatch → String
  | .kind found expected => "invalid type: " ++ found.text ++ ", expected " ++ expected
  | .value found expected => "invalid value: " ++ found.text ++ ", expected " ++ expected
  | .length count expected =>
    "invalid length " ++ Decimal.numeral count ++ ", expected " ++ expected
  | .variant name known =>
    "unknown variant `" ++ name ++ "`, expected one of "
      ++ String.intercalate ", " (known.map fun k => "`" ++ k ++ "`")
  | .missing field => "missing field `" ++ field ++ "`"
  | .duplicate field => "duplicate field `" ++ field ++ "`"

inductive ReadError
  | fault (f : Fault)
  | mismatch (m : Mismatch)
  deriving DecidableEq, Repr

end TableSql.Json
