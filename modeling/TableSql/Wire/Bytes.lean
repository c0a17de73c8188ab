import TableSql.Wire.Fault

/-! Integers as bytes, most significant first. -/

namespace TableSql.Wire

abbrev Bytes := List UInt8

/-- The lowest `width` bytes of a number. -/
def bigEndian : Nat → Nat → Bytes
  | 0, _ => []
  | width + 1, n => UInt8.ofNat (n / twoPow (8 * width)) :: bigEndian width n

def ofBigEndian (bytes : Bytes) : Nat := bytes.foldl (fun n b => n * 256 + b.toNat) 0

def signed (width : Nat) (i : Int) : Bytes := bigEndian width (i % twoPow (8 * width)).toNat

def ofSigned (bytes : Bytes) : Int :=
  let n := ofBigEndian bytes
  if 2 * n < twoPow (8 * bytes.length) then n else n - twoPow (8 * bytes.length)

def take (width : Nat) (bytes : Bytes) : Except Fault (Bytes × Bytes) :=
  if bytes.length < width then .error .short else .ok (bytes.splitAt width)

/-- Exactly `width` bytes; `extra` is the fault of more. -/
def exactly (width : Nat) (extra : Fault) (bytes : Bytes) : Except Fault Bytes := do
  let (taken, rest) ← take width bytes
  if rest.isEmpty then return taken else throw extra

/-- A signed integer of four bytes at the front. -/
def takeInt (bytes : Bytes) : Except Fault (Int × Bytes) := do
  let (taken, rest) ← take 4 bytes
  return (ofSigned taken, rest)

end TableSql.Wire
