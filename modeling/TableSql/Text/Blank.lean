/-! Blank characters (White_Space) and the words between them. -/

namespace TableSql.Text

def isBlank (c : Char) : Bool :=
  let n := c.toNat
  (0x9 ≤ n && n ≤ 0xd) || n = 0x20 || n = 0x85 || n = 0xa0 || n = 0x1680
    || (0x2000 ≤ n && n ≤ 0x200a) || n = 0x2028 || n = 0x2029 || n = 0x202f || n = 0x205f
    || n = 0x3000

def dropBlanks (cs : List Char) : List Char := cs.dropWhile isBlank

/-- The maximal runs of characters that are not blank. -/
def words : List Char → List (List Char)
  | [] => []
  | c :: cs =>
    if isBlank c then words cs
    else if cs.head?.all isBlank then [c] :: words cs
    else match words cs with
      | [] => [[c]]
      | word :: rest => (c :: word) :: rest

/-- The words of a text, one space between each two. -/
def collapse (text : String) : String :=
  String.ofList (List.intercalate [' '] (words text.toList))

end TableSql.Text
