import TableSql.Value.Basic
import TableSql.Text.Quoted

/-! Values as log lines show them, each under the name of its kind. -/

namespace TableSql

/-- Log lines write numbers plainly from the fourth place after the point to the sixteenth before
it. -/
def inspectLayout : Binary.Layout where
  tie := .up
  low := some (-4)
  high := some 16
  pointZero := true
  plus := false
  nan := "NaN"
  infinity := "inf"

def wrap (name text : String) : String := name ++ "(" ++ text ++ ")"

def bracketed (items : List String) : String := "[" ++ String.intercalate ", " items ++ "]"

def inspectBool (b : Bool) : String := if b then "true" else "false"

def inspectOption (inspect : α → String) : Option α → String
  | none => "None"
  | some a => wrap "Some" (inspect a)

namespace Json

mutual

def inspect : Json → String
  | .null => "Null"
  | .bool b => wrap "Bool" (inspectBool b)
  | .number n => wrap "Number" n.text
  | .string s => wrap "String" (Text.quoted s)
  | .array items => "Array " ++ bracketed (inspectItems items)
  | .object members =>
    "Object \x7b" ++ String.intercalate ", " (inspectMembers members) ++ "\x7d"

def inspectItems : List Json → List String
  | [] => []
  | item :: rest => item.inspect :: inspectItems rest

def inspectMembers : List (String × Json) → List String
  | [] => []
  | (key, value) :: rest => (Text.quoted key ++ ": " ++ value.inspect) :: inspectMembers rest

end

end Json

namespace Value

mutual

def inspect : Value → String
  | .null => "Null"
  | .bool b => wrap "Bool" (inspectBool b)
  | .int i => wrap "Int" (Decimal.signedNumeral i.toInt)
  | .float d => wrap "Float" (inspectLayout.text d)
  | .timestamp t => wrap "Timestamp" t.text
  | .text s => wrap "Text" (Text.quoted s)
  | .array items => wrap "Array" (bracketed (inspectItems items))
  | .json j => wrap "Json" j.inspect

def inspectItems : List Value → List String
  | [] => []
  | item :: rest => item.inspect :: inspectItems rest

end

end Value

end TableSql
