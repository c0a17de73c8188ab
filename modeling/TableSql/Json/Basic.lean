import TableSql.Entries
import TableSql.Binary.Layout

/-! JSON values and their compact text. -/

namespace TableSql

/-- A number is an integer or a double, as its literal was written. -/
inductive Json.Number
  | integer (i : Int)
  | real (d : Double)
  deriving DecidableEq, Repr

/-- The members of an object stand in the order they are written in. -/
inductive Json
  | null
  | bool (b : Bool)
  | number (n : Json.Number)
  | string (s : String)
  | array (items : List Json)
  | object (members : List (String × Json))
  deriving Repr

namespace Json
open Decimal

instance : Inhabited Json := ⟨.null⟩

def int (i : Int) : Json := .number (.integer i)

def nat (n : Nat) : Json := .int n

/-- The first digit of a number in plain notation is from the fifth place after the point to the
sixteenth before it. -/
def layout : Binary.Layout where
  tie := .toEven
  low := some (-5)
  high := some 16
  pointZero := true
  plus := true
  nan := "null"
  infinity := "null"

def Number.text : Number → String
  | .integer i => signedNumeral i
  | .real d => if d.isFinite then layout.text d else "null"

/-- Only the quote, the backslash and the controls below the space are escaped. -/
def escape (c : Char) : List Char :=
  match c with
  | '"' => ['\\', '"']
  | '\\' => ['\\', '\\']
  | '\x08' => ['\\', 'b']
  | '\t' => ['\\', 't']
  | '\n' => ['\\', 'n']
  | '\x0c' => ['\\', 'f']
  | '\r' => ['\\', 'r']
  | c =>
    if c.toNat < 0x20 then
      ['\\', 'u', '0', '0', Nat.digitChar (c.toNat / 16), Nat.digitChar (c.toNat % 16)]
    else [c]

def stringText (s : String) : String :=
  String.ofList ('"' :: s.toList.flatMap escape ++ ['"'])

mutual

/-- The text of a value, with no blank between its parts. -/
def text : Json → String
  | .null => "null"
  | .bool true => "true"
  | .bool false => "false"
  | .number n => n.text
  | .string s => stringText s
  | .array items => "[" ++ String.intercalate "," (itemTexts items) ++ "]"
  | .object members => "\x7b" ++ String.intercalate "," (memberTexts members) ++ "\x7d"

def itemTexts : List Json → List String
  | [] => []
  | item :: rest => item.text :: itemTexts rest

def memberTexts : List (String × Json) → List String
  | [] => []
  | (key, value) :: rest => (stringText key ++ ":" ++ value.text) :: memberTexts rest

end

def member? (key : String) : Json → Option Json
  | .object members => Entries.get? key members
  | _ => none

end Json

end TableSql
