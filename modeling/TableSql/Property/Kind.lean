import TableSql.Json.Decoding

/-! The declared types of properties, and the kinds of comparison they fall into. -/

namespace TableSql

/-- What a property is compared as. -/
inductive Kind
  | string
  | number
  | date
  deriving DecidableEq, Repr

namespace Kind

def all : List Kind := [.string, .number, .date]

def name : Kind → String
  | .string => "string"
  | .number => "number"
  | .date => "date"

def decoder : Json.Decoder Kind := .choice (all.map fun k => (k.name, k))

end Kind

inductive PropertyType
  | boolean
  | string
  | number
  | integer
  | float
  | even
  | odd
  | positive
  | negative
  | powerOfTwo
  | ascii
  | array
  | jwt
  | symbol
  | password
  | email
  | regex
  | json
  | ipAddress
  | slug
  | hexadecimal
  | date
  | timestamp
  | function
  | htmlElement
  | htmlEventAttribute
  | node
  | object
  | geometry
  deriving DecidableEq, Repr

namespace PropertyType

def all : List PropertyType :=
  [.boolean, .string, .number, .integer, .float, .even, .odd, .positive, .negative, .powerOfTwo,
   .ascii, .array, .jwt, .symbol, .password, .email, .regex, .json, .ipAddress, .slug,
   .hexadecimal, .date, .timestamp, .function, .htmlElement, .htmlEventAttribute, .node, .object,
   .geometry]

def name : PropertyType → String
  | .boolean => "boolean"
  | .string => "string"
  | .number => "number"
  | .integer => "integer"
  | .float => "float"
  | .even => "even"
  | .odd => "odd"
  | .positive => "positive"
  | .negative => "negative"
  | .powerOfTwo => "powerOfTwo"
  | .ascii => "ascii"
  | .array => "array"
  | .jwt => "jwt"
  | .symbol => "symbol"
  | .password => "password"
  | .email => "email"
  | .regex => "regex"
  | .json => "json"
  | .ipAddress => "ipAddress"
  | .slug => "slug"
  | .hexadecimal => "hexadecimal"
  | .date => "date"
  | .timestamp => "timestamp"
  | .function => "function"
  | .htmlElement => "htmlElement"
  | .htmlEventAttribute => "htmlEventAttribute"
  | .node => "node"
  | .object => "object"
  | .geometry => "geometry"

def decoder : Json.Decoder PropertyType := .choice (all.map fun t => (t.name, t))

/-- The type `number` itself is compared as a string. -/
def kind : PropertyType → Kind
  | .integer | .float | .even | .odd | .positive | .negative | .powerOfTwo | .ascii => .number
  | .date | .timestamp => .date
  | _ => .string

end PropertyType

end TableSql
