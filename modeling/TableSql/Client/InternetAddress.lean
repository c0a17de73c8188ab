import TableSql.Text.Hex

/-! Numeric internet addresses: four decimal numbers, or eight groups of hexadecimal digits. -/

namespace TableSql.InternetAddress

/-- A number below 256 without a leading zero, and what follows it. -/
def octet? (cs : List Char) : Option (List Char) :=
  let digits := (cs.takeWhile Char.isDigit)
  let value := digits.foldl (fun n c => n * 10 + (c.toNat - '0'.toNat)) 0
  match digits with
  | [] => none
  | ['0'] => some (cs.drop 1)
  | '0' :: _ => none
  | _ => if digits.length ≤ 3 ∧ value < 256 then some (cs.drop digits.length) else none

def dotted? : Nat → List Char → Option (List Char)
  | 0, cs => some cs
  | count + 1, cs =>
    match cs with
    | '.' :: rest => (octet? rest).bind (dotted? count)
    | _ => none

/-- Four numbers with points between them, and what follows them. -/
def takeDecimal? (cs : List Char) : Option (List Char) := (octet? cs).bind (dotted? 3)

/-- One to four hexadecimal digits, and what follows them. -/
def group? (cs : List Char) : Option (List Char) :=
  let digits := cs.takeWhile fun c => (Text.hexValue? c).isSome
  if 1 ≤ digits.length ∧ digits.length ≤ 4 then some (cs.drop digits.length) else none

/-- The colon before every group but the first. -/
def separated? (first : Bool) (cs : List Char) : Option (List Char) :=
  match first, cs with
  | true, cs => some cs
  | false, ':' :: rest => some rest
  | false, _ => none

/-- How many of at most `room` groups there are, whether the last two of them are written as four
decimal numbers, and what follows. -/
def groups : Nat → Bool → List Char → Nat × Bool × List Char
  | 0, _, cs => (0, false, cs)
  | room + 1, first, cs =>
    match if 0 < room then (separated? first cs).bind takeDecimal? else none with
    | some rest => (2, true, rest)
    | none =>
      match (separated? first cs).bind group? with
      | some rest =>
        let (count, ended, rest) := groups room false rest
        (count + 1, ended, rest)
      | none => (0, false, cs)

/-- Eight groups, or fewer around two colons, which stand for at least one. -/
def isHexadecimal (cs : List Char) : Bool :=
  match groups 8 true cs with
  | (8, _, rest) => rest.isEmpty
  | (count, false, ':' :: ':' :: rest) => (groups (7 - count) true rest).2.2.isEmpty
  | _ => false

def isValid (cs : List Char) : Bool := takeDecimal? cs = some [] || isHexadecimal cs

end TableSql.InternetAddress
