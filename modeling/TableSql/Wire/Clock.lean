import TableSql.Calendar.Instant
import TableSql.Wire.Bytes

/-! Times and dates on the wire: microseconds and days since 2000. -/

namespace TableSql.Wire
open Calendar

/-- Seconds from 1970 to 2000. -/
def epochSeconds : Int := 946684800

/-- Days from 1970 to 2000. -/
def epochDays : Int := 10957

/-- Microseconds since 2000; nanoseconds are dropped toward it. -/
def micros (t : Instant) : Int :=
  Int.tdiv ((t.seconds - epochSeconds) * nanosPerSecond + t.nanos) 1000

def ofMicros (micros : Int) : Except Fault Instant :=
  let t : Instant := ⟨epochSeconds + micros / 1000000, (micros % 1000000).toNat * 1000⟩
  if t.isReached then .ok t else .error .tooLarge

def days (d : Date) : Int := d.dayNumber - epochDays

def ofDays (days : Int) : Except Fault Date :=
  match Date.ofDayNumber? (days + epochDays) with
  | some d => .ok d
  | none => .error .tooLarge

end TableSql.Wire
