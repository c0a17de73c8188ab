import TableSql.Calendar.Date

/-! Instants of universal time, to the nanosecond. -/

namespace TableSql.Calendar

/-- Whole seconds since 1970-01-01T00:00:00Z and the nanoseconds after them. A leap second is
counted as nanoseconds beyond a thousand million. -/
structure Instant where
  seconds : Int
  nanos : Nat
  deriving DecidableEq, Repr

def secondsPerDay : Int := 86400

def nanosPerSecond : Nat := 1000000000

namespace Instant

def date (t : Instant) : Date := Date.ofDayNumber (t.seconds / secondsPerDay)

def secondOfDay (t : Instant) : Nat := (t.seconds % secondsPerDay).toNat

def isReached (t : Instant) : Bool := (Date.ofDayNumber? (t.seconds / secondsPerDay)).isSome

/-- The instant the given number of milliseconds after 1970, if it is reached. -/
def ofMillis? (millis : Int) : Option Instant :=
  let t : Instant := ⟨millis / 1000, (millis % 1000).toNat * 1000000⟩
  if t.isReached then some t else none

/-- The fewest of 0, 3, 6 and 9 places that show the nanoseconds exactly. -/
def fractionText (nanos : Nat) : String :=
  if nanos = 0 then ""
  else if nanos % 1000000 = 0 then "." ++ Decimal.padded 3 (nanos / 1000000)
  else if nanos % 1000 = 0 then "." ++ Decimal.padded 6 (nanos / 1000)
  else "." ++ Decimal.padded 9 nanos

/-- A leap second is written as second 60. -/
def clockText (secondOfDay nanos : Nat) : String :=
  let leap := nanosPerSecond ≤ nanos
  Decimal.padded 2 (secondOfDay / 3600) ++ ":" ++ Decimal.padded 2 (secondOfDay / 60 % 60) ++ ":"
    ++ Decimal.padded 2 (secondOfDay % 60 + if leap then 1 else 0)
    ++ fractionText (if leap then nanos - nanosPerSecond else nanos)

/-- Date and time of day joined by `T`, and the given name of the zone. -/
def textWith (zone : String) (t : Instant) : String :=
  t.date.text ++ "T" ++ clockText t.secondOfDay t.nanos ++ zone

def text (t : Instant) : String := t.textWith "Z"

def offsetText (t : Instant) : String := t.textWith "+00:00"

end Instant

end TableSql.Calendar
