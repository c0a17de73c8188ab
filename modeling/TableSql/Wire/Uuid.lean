import TableSql.Text.Hex

/-! Universally unique identifiers and their texts. -/

namespace TableSql.Wire.Uuid
open Text

def hyphen (cs : List Char) : List Char :=
  cs.take 8 ++ '-' :: (cs.drop 8).take 4 ++ '-' :: (cs.drop 12).take 4
    ++ '-' :: (cs.drop 16).take 4 ++ '-' :: cs.drop 20

/-- Groups of 8, 4, 4, 4 and 12 lower-case digits with hyphens between them. -/
def text (bytes : List UInt8) : String := String.ofList (hyphen (bytes.flatMap hexDigits))

/-- The digits of text in five groups. -/
def ungrouped? (cs : List Char) : Option (List Char) :=
  match cs.length, cs[8]?, cs[13]?, cs[18]?, cs[23]? with
  | 36, some '-', some '-', some '-', some '-' =>
    some (cs.take 8 ++ (cs.drop 9).take 4 ++ (cs.drop 14).take 4 ++ (cs.drop 19).take 4
      ++ cs.drop 24)
  | _, _, _, _, _ => none

/-- 32 digits, or five groups, which may stand in braces or after `urn:uuid:`. -/
def ofText? (text : String) : Option (List UInt8) :=
  let cs := text.toList
  if cs.length = 32 then ofHex? cs
  else if cs.head? = some '\x7b' then
    if cs.getLast? = some '\x7d' then (ungrouped? (cs.drop 1).dropLast).bind ofHex? else none
  else if cs.length = 45 then
    if (cs.take 9).map Char.toLower = "urn:uuid:".toList then
      (ungrouped? (cs.drop 9)).bind ofHex?
    else none
  else (ungrouped? cs).bind ofHex?

end TableSql.Wire.Uuid
