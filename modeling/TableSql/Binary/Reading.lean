import TableSql.Binary.Shortest
import TableSql.Decimal.Integer

/-! Reading a number: an optional sign, digits with an optional point and exponent, or a name. -/

namespace TableSql.Binary

inductive NumberFault
  | empty
  | invalid
  deriving DecidableEq, Repr

def NumberFault.message : NumberFault → String
  | .empty => "cannot parse float from empty string"
  | .invalid => "invalid float literal"

def digitRun (cs : List Char) : List Nat × List Char :=
  ((cs.takeWhile Char.isDigit).map (fun c => c.toNat - '0'.toNat), cs.dropWhile Char.isDigit)

def ofDigits (ds : List Nat) : Nat := ds.foldl (fun n d => n * 10 + d) 0

/-- The power of ten after a mantissa; a text that is no exponent gives `none`. -/
def exponentOf? : List Char → Option Int
  | [] => some 0
  | mark :: rest =>
    if mark = 'e' ∨ mark = 'E' then
      let (negative, digits) : Bool × List Char := match rest with
        | '-' :: r => (true, r)
        | '+' :: r => (false, r)
        | r => (false, r)
      match digitRun digits with
      | ([], _) => none
      | (ds, []) => some (if negative then -ofDigits ds else ofDigits ds)
      | _ => none
    else none

/-- Digits with an optional point, at least one digit in all, and an optional exponent. -/
def readDecimal? (cs : List Char) : Option Decimal :=
  let (whole, rest) := digitRun cs
  let (fraction, rest) := match rest with
    | '.' :: r => digitRun r
    | r => ([], r)
  if whole.isEmpty && fraction.isEmpty then none
  else (exponentOf? rest).map fun e => ⟨ofDigits (whole ++ fraction), e - fraction.length⟩

/-- The magnitude nearest to a decimal. Beyond a thousand places either way the result is
infinity or zero, whatever the digits. -/
def Format.magnitudeOf (f : Format) (d : Decimal) : Nat :=
  let leading := (Nat.toDigits 10 d.digits).length + d.exponent
  if d.digits = 0 then 0
  else if 1000 < leading then f.infinity
  else if leading < -1000 then 0
  else f.nearestDecimal d

def unsignedMagnitude? (f : Format) (cs : List Char) : Option Nat :=
  let name := String.ofList (cs.map Char.toLower)
  if name = "inf" ∨ name = "infinity" then some f.infinity
  else if name = "nan" then some (f.infinity + f.quietBit)
  else (readDecimal? cs).map f.magnitudeOf

/-- The pattern nearest to what a text denotes. -/
def Format.read (f : Format) (text : String) : Except NumberFault Nat :=
  match text.toList with
  | [] => .error .empty
  | c :: rest =>
    let (negative, body) := if c = '-' then (true, rest) else if c = '+' then (false, rest)
      else (false, c :: rest)
    match unsignedMagnitude? f body with
    | some magnitude => .ok (f.signed negative magnitude)
    | none => .error .invalid

end TableSql.Binary

namespace TableSql.Double
open Binary

def read (text : String) : Except NumberFault Double :=
  (Format.double.read text).map ofBits

def readSingle (text : String) : Except NumberFault UInt32 :=
  (Format.single.read text).map UInt32.ofNat

end TableSql.Double
