import TableSql.Binary.Format

/-! Double-precision numbers, held as their bits, with the few operations that values need. -/

namespace TableSql

/-- A double-precision number. Two of them are equal when their bits are. -/
structure Double where
  bits : UInt64
  deriving DecidableEq, Repr

namespace Double
open Binary

def ofBits (bits : Nat) : Double := ⟨UInt64.ofNat bits⟩

def datum (d : Double) : Datum := Format.double.datum d.bits.toNat

def nan : Double := ofBits (Format.double.infinity + Format.double.quietBit)

def infinity (negative : Bool) : Double :=
  ofBits (Format.double.signed negative Format.double.infinity)

/-- The number nearest to `± num / den`. -/
def ofRatio (negative : Bool) (num den : Nat) : Double :=
  ofBits (Format.double.signed negative (Format.double.nearest num den))

def ofInt (i : Int) : Double := ofRatio (decide (i < 0)) i.natAbs 1

def isNaN (d : Double) : Bool := d.datum matches .nan

def isFinite (d : Double) : Bool := d.datum matches .finite ..

def isZero (d : Double) : Bool := d.datum matches .finite _ 0 _

def negate (d : Double) : Double := ⟨d.bits ^^^ 0x8000000000000000⟩

/-- The rounded product of two finite numbers; any other operand gives NaN. -/
def mul (a b : Double) : Double :=
  match a.datum, b.datum with
  | .finite s m e, .finite t n k =>
    ofBits (Format.double.signed (s != t) (Format.double.nearestScaled (m * n) (e + k)))
  | _, _ => nan

/-- The rounded quotient of two finite numbers; any other operand, or division by zero, gives NaN. -/
def div (a b : Double) : Double :=
  match a.datum, b.datum with
  | .finite s m e, .finite t n k =>
    if n = 0 then nan
    else
      let scale := e - k
      ofBits (Format.double.signed (s != t)
        (if 0 ≤ scale then Format.double.nearest (m * twoPow scale.toNat) n
         else Format.double.nearest m (n * twoPow (-scale).toNat)))
  | _, _ => nan

/-- The integer a number equals, if it has no fractional part. -/
def toInt? (d : Double) : Option Int :=
  match d.datum with
  | .finite negative m e =>
    let signed (n : Nat) : Int := if negative then -n else n
    if 0 ≤ e then some (signed (m * twoPow e.toNat))
    else
      let den := twoPow (-e).toNat
      if m % den = 0 then some (signed (m / den)) else none
  | _ => none

def toSingle (d : Double) : UInt32 :=
  UInt32.ofNat (Format.double.convert .single d.bits.toNat)

def ofSingle (bits : UInt32) : Double :=
  ofBits (Format.single.convert .double bits.toNat)

end Double

end TableSql
