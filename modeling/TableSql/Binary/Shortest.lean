import TableSql.Binary.Double

/-! The shortest decimal that reads back as a given number: fewest digits, then nearest; where two are as
near, the place of use decides. -/

namespace TableSql.Binary

/-- The decimal `digits · 10 ^ exponent`. -/
structure Decimal where
  digits : Nat
  exponent : Int
  deriving DecidableEq, Repr

/-- The exponent of the first decimal digit of a positive ratio. -/
def leadingExponent (num den : Nat) : Int :=
  if den ≤ num then (Nat.toDigits 10 (num / den)).length - 1
  else -(Nat.toDigits 10 ((den - 1) / num)).length

/-- A ratio times ten to the power `-e`, as a ratio. -/
def unscale (num den : Nat) (e : Int) : Nat × Nat :=
  if 0 ≤ e then (num, den * tenPow e.toNat) else (num * tenPow (-e).toNat, den)

def Format.nearestDecimal (f : Format) (d : Decimal) : Nat :=
  if 0 ≤ d.exponent then f.nearest (d.digits * tenPow d.exponent.toNat) 1
  else f.nearest d.digits (tenPow (-d.exponent).toNat)

/-- Which of two neighbours is taken halfway between them. -/
inductive Tie
  | toEven
  | up
  deriving DecidableEq, Repr

/-- Whether the neighbour above `below` is taken halfway between the two. -/
def Tie.takesUpper : Tie → Nat → Bool
  | .toEven, below => below % 2 = 1
  | .up, _ => true

/-- Whether the whole number above a ratio is nearer than the one below, or as near and taken in a
tie. -/
def roundsUp (tie : Tie) (num den : Nat) : Bool :=
  let r := num % den
  den < 2 * r || (2 * r = den && tie.takesUpper (num / den))

/-- The neighbour on the grid of `10 ^ e` that reads back as `magnitude`; if both do, the nearer, and
in a tie the one that `tie` takes. -/
def Format.onGrid? (f : Format) (tie : Tie) (magnitude num den : Nat) (e : Int) :
    Option Decimal :=
  let (num, den) := unscale num den e
  let below : Decimal := ⟨num / den, e⟩
  let above : Decimal := ⟨num / den + 1, e⟩
  let preferred := if roundsUp tie num den then above else below
  let other := if roundsUp tie num den then below else above
  if f.nearestDecimal preferred = magnitude then some preferred
  else if f.nearestDecimal other = magnitude then some other
  else none

/-- Tries grids of growing precision, the first with the given exponent; `tries` bounds them. -/
def Format.firstGrid (f : Format) (tie : Tie) (magnitude num den : Nat) : Nat → Int → Decimal
  | 0, e => ⟨(unscale num den e).1 / (unscale num den e).2, e⟩
  | tries + 1, e =>
    match f.onGrid? tie magnitude num den e with
    | some d => d
    | none => f.firstGrid tie magnitude num den tries (e - 1)

/-- Trailing zeros moved into the exponent; `fuel` bounds their number. -/
def Decimal.strip : Nat → Decimal → Decimal
  | 0, d => d
  | fuel + 1, d =>
    if d.digits ≠ 0 ∧ d.digits % 10 = 0 then strip fuel ⟨d.digits / 10, d.exponent + 1⟩ else d

/-- The shortest decimal of the finite number `significand · 2 ^ exponent`. Seventeen digits
always suffice for double precision. -/
def shortest (tie : Tie) (significand : Nat) (exponent : Int) : Decimal :=
  if significand = 0 then ⟨0, 0⟩
  else
    let num := if 0 ≤ exponent then significand * twoPow exponent.toNat else significand
    let den := if 0 ≤ exponent then 1 else twoPow (-exponent).toNat
    let magnitude := Format.double.nearest num den
    (Format.double.firstGrid tie magnitude num den 17 (leadingExponent num den)).strip 20

end TableSql.Binary
