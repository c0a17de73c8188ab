import TableSql.Binary.Shortest
import TableSql.Decimal.Integer

/-! The texts of a number: the shortest digits, set out as the place of use asks. -/

namespace TableSql.Binary

/-- How digits are set out. Plain notation is used while the exponent of the first digit is from
`low` to below `high`; an absent bound does not limit it. -/
structure Layout where
  /-- Which of two shortest decimals is written for a number halfway between them. -/
  tie : Tie
  low : Option Int
  high : Option Int
  /-- A whole number in plain notation ends in `.0`. -/
  pointZero : Bool
  /-- A positive exponent carries its sign. -/
  plus : Bool
  nan : String
  infinity : String

namespace Layout

def isPlain (l : Layout) (e : Int) : Bool :=
  l.low.all (· ≤ e) && l.high.all (e < ·)

/-- Digits with the point after the first `point` of them. -/
def plain (l : Layout) (digits : List Char) (point : Int) : String :=
  if point ≤ 0 then
    String.ofList ('0' :: '.' :: List.replicate (-point).toNat '0' ++ digits)
  else if point < digits.length then
    String.ofList (digits.take point.toNat ++ '.' :: digits.drop point.toNat)
  else
    String.ofList (digits ++ List.replicate (point.toNat - digits.length) '0')
      ++ (if l.pointZero then ".0" else "")

def scientific (l : Layout) (digits : List Char) (e : Int) : String :=
  let mantissa := match digits with
    | [] => []
    | [d] => [d]
    | d :: rest => d :: '.' :: rest
  String.ofList mantissa ++ "e" ++ (if l.plus && 0 ≤ e then "+" else "") ++ Decimal.signedNumeral e

def finite (l : Layout) (significand : Nat) (exponent : Int) : String :=
  if significand = 0 then l.plain ['0'] 1
  else
    let d := shortest l.tie significand exponent
    let digits := Nat.toDigits 10 d.digits
    let point := digits.length + d.exponent
    if l.isPlain (point - 1) then l.plain digits point else l.scientific digits (point - 1)

def text (l : Layout) (d : Double) : String :=
  match d.datum with
  | .nan => l.nan
  | .infinite negative => (if negative then "-" else "") ++ l.infinity
  | .finite negative m e => (if negative then "-" else "") ++ l.finite m e

end Layout

end TableSql.Binary
