import TableSql.Power

/-! Binary floating-point formats: what a bit pattern denotes, and the pattern nearest to a ratio. -/

namespace TableSql.Binary

/-- An interchange format with a sign, `exponentBits` and `fractionBits`. -/
structure Format where
  fractionBits : Nat
  exponentBits : Nat
  deriving DecidableEq, Repr

namespace Format

def double : Format := ⟨52, 11⟩
def single : Format := ⟨23, 8⟩

/-- The smallest positive number is two to this power. -/
def least (f : Format) : Int := 2 - twoPow (f.exponentBits - 1) - f.fractionBits

def signBit (f : Format) : Nat := twoPow (f.fractionBits + f.exponentBits)

/-- The magnitude of infinity: all exponent bits set and no fraction. -/
def infinity (f : Format) : Nat := (twoPow f.exponentBits - 1) * twoPow f.fractionBits

/-- The leading fraction bit, which marks a quiet NaN. -/
def quietBit (f : Format) : Nat := twoPow (f.fractionBits - 1)

end Format

/-- What a bit pattern denotes; a finite number is `± significand · 2 ^ exponent`. -/
inductive Datum
  | nan
  | infinite (negative : Bool)
  | finite (negative : Bool) (significand : Nat) (exponent : Int)
  deriving DecidableEq, Repr

def Format.datum (f : Format) (bits : Nat) : Datum :=
  let negative := decide (f.signBit ≤ bits)
  let magnitude := bits % f.signBit
  let fraction := magnitude % twoPow f.fractionBits
  let field := magnitude / twoPow f.fractionBits
  if f.infinity < magnitude then .nan
  else if magnitude = f.infinity then .infinite negative
  else if field = 0 then .finite negative fraction f.least
  else .finite negative (twoPow f.fractionBits + fraction) (f.least + field - 1)

/-- The integer nearest to `num / den`, an even one at a midpoint. -/
def roundEven (num den : Nat) : Nat :=
  let q := num / den
  let r := num % den
  if 2 * r < den then q else if den < 2 * r then q + 1 else q + q % 2

/-- `num / den` scaled by two to the power `-e`, rounded to the nearest integer. -/
def roundScaled (num den : Nat) (e : Int) : Nat :=
  if 0 ≤ e then roundEven num (den * twoPow e.toNat) else roundEven (num * twoPow (-e).toNat) den

/-- The largest power of two that is at most `num / den`. -/
def floorLog (num den : Nat) : Int :=
  let guess : Int := num.log2 - den.log2
  let reached : Bool :=
    if 0 ≤ guess then decide (den * twoPow guess.toNat ≤ num)
    else decide (den ≤ num * twoPow (-guess).toNat)
  if reached then guess else guess - 1

/-- The magnitude nearest to `num / den`, ties to even; what is too large becomes infinity. -/
def Format.nearest (f : Format) (num den : Nat) : Nat :=
  if num = 0 then 0
  else
    let e := max f.least (floorLog num den - f.fractionBits)
    min f.infinity ((e - f.least).toNat * twoPow f.fractionBits + roundScaled num den e)

/-- The magnitude nearest to `significand · 2 ^ exponent`. -/
def Format.nearestScaled (f : Format) (significand : Nat) (exponent : Int) : Nat :=
  if 0 ≤ exponent then f.nearest (significand * twoPow exponent.toNat) 1
  else f.nearest significand (twoPow (-exponent).toNat)

def Format.signed (f : Format) (negative : Bool) (magnitude : Nat) : Nat :=
  if negative then f.signBit + magnitude else magnitude

/-- The fraction of a NaN moved to another format, its leading bits kept. -/
def Format.widenNaN (source target : Format) (fraction : Nat) : Nat :=
  if source.fractionBits ≤ target.fractionBits then
    fraction * twoPow (target.fractionBits - source.fractionBits)
  else fraction / twoPow (source.fractionBits - target.fractionBits)

/-- The pattern of one format that denotes the nearest datum of another. A NaN turns quiet. -/
def Format.convert (source target : Format) (bits : Nat) : Nat :=
  match source.datum bits with
  | .finite negative m e => target.signed negative (target.nearestScaled m e)
  | .infinite negative => target.signed negative target.infinity
  | .nan =>
    let fraction := source.widenNaN target (bits % twoPow source.fractionBits)
    let quieted := if fraction / target.quietBit % 2 = 1 then fraction else fraction + target.quietBit
    target.signed (decide (source.signBit ≤ bits)) (target.infinity + quieted)

end TableSql.Binary
