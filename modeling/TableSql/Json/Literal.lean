import TableSql.Json.Basic

/-! Number literals and what they denote. -/

namespace TableSql.Json

/-- A number as it is written: digits before and after the point, and an exponent. -/
structure Literal where
  negative : Bool
  whole : List Nat
  fraction : List Nat
  exponent : Option (Bool × List Nat)
  deriving DecidableEq, Repr

namespace Literal

def maxSignificand : Nat := UInt64.size - 1

/-- Appends digits to a significand until the next would take it out of 64 bits; the second part
is what was left out. -/
def absorb (significand : Nat) : List Nat → Nat × List Nat
  | [] => (significand, [])
  | d :: rest =>
    if significand * 10 + d ≤ maxSignificand then absorb (significand * 10 + d) rest
    else (significand, d :: rest)

def power (k : Nat) : Double := Double.ofRatio false (tenPow k) 1

/-- The greatest power of ten that is a double. -/
def maxPower : Nat := 308

/-- A significand and a power of ten, each rounded to a double, multiplied or divided once.
A larger negative exponent is taken in steps, of which few are left before zero: `steps` bounds
them. Too large a result is none. -/
def scale (f : Double) (exponent : Int) : Nat → Option Double
  | 0 => some f
  | steps + 1 =>
    if exponent.natAbs ≤ maxPower then
      if 0 ≤ exponent then
        let product := f.mul (power exponent.natAbs)
        if product.isFinite then some product else none
      else some (f.div (power exponent.natAbs))
    else if f.isZero then some f
    else if 0 ≤ exponent then none
    else scale (f.div (power maxPower)) (exponent + maxPower) steps

def ofDigits (ds : List Nat) : Nat := ds.foldl (fun n d => n * 10 + d) 0

/-- An integer within 64 bits is kept as one, but for negative zero; every other literal is a
double, unless it is too large for one. -/
def number? (l : Literal) : Option Number :=
  let (significand, omitted) := absorb 0 l.whole
  let sign (d : Double) : Double := if l.negative then d.negate else d
  if omitted.isEmpty && l.fraction.isEmpty && l.exponent.isNone then
    if !l.negative then some (.integer significand)
    else if significand = 0 ∨ twoPow 63 < significand then some (.real (sign (.ofInt significand)))
    else some (.integer (-significand))
  else
    let (significand, unread) := absorb significand l.fraction
    let written : Int := match l.exponent with
      | none => 0
      | some (negative, ds) => if negative then -ofDigits ds else ofDigits ds
    let exponent := written + omitted.length - (l.fraction.length - unread.length : Nat)
    (scale (.ofInt significand) exponent 4).map fun d => .real (sign d)

end Literal

end TableSql.Json
