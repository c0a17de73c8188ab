import TableSql.Calendar.Instant
import TableSql.Text.Blank

/-! Reading dates and times: the fixed form with a zone, and the free form without one. -/

namespace TableSql.Calendar
open Decimal Text

/-- At least `least` and at most `most` digits; no limit without `most`. -/
def digits? (least : Nat) (most : Option Nat) (cs : List Char) : Option (Nat × List Char) :=
  let run := cs.takeWhile Char.isDigit
  let run := match most with
    | some most => run.take most
    | none => run
  if run.length < least then none
  else some (run.foldl (fun n c => n * 10 + (c.toNat - '0'.toNat)) 0, cs.drop run.length)

def expect? (c : Char) (cs : List Char) : Option (List Char) :=
  match cs with
  | d :: rest => if d = c then some rest else none
  | [] => none

/-- Nanoseconds after a point: one digit or more, of which nine count. Without a point there are
none. -/
def fraction? (cs : List Char) : Option (Nat × List Char) :=
  match cs with
  | '.' :: rest => do
    let (value, after) ← digits? 1 (some 9) rest
    let places := rest.length - after.length
    return (value * tenPow (9 - places), after.dropWhile Char.isDigit)
  | cs => some (0, cs)

/-- The instant of a date and a time of day. Second 60 is a leap second. -/
def instant? (d : Date) (hour minute second nanos : Nat) : Option Instant :=
  if d.isValid && hour ≤ 23 && minute ≤ 59 && second ≤ 60 then
    let whole := min second 59
    some ⟨d.dayNumber * secondsPerDay + hour * 3600 + minute * 60 + whole,
      nanos + if second = 60 then nanosPerSecond else 0⟩
  else none

/-- Seconds east of universal time: `Z`, or a sign, two digits of hours and two of minutes. -/
def zone? (cs : List Char) : Option Int :=
  match cs with
  | ['Z'] | ['z'] => some 0
  | sign :: rest => do
    let east ← if sign = '+' then some true
      else if sign = '-' ∨ sign = '\u2212' then some false else none
    let (hours, rest) ← digits? 2 (some 2) rest
    let (minutes, rest) ← digits? 2 (some 2) (← expect? ':' rest)
    if rest.isEmpty && hours ≤ 23 && minutes ≤ 59 then
      let seconds : Int := hours * 3600 + minutes * 60
      return if east then seconds else -seconds
    else none
  | [] => none

/-- `YYYY-MM-DD`, one of `T`, `t` and a space, `HH:MM:SS` with an optional fraction, and a zone;
each field has its full width. -/
def Instant.ofZonedText? (text : String) : Option Instant := do
  let (year, cs) ← digits? 4 (some 4) text.toList
  let (month, cs) ← digits? 2 (some 2) (← expect? '-' cs)
  let (day, cs) ← digits? 2 (some 2) (← expect? '-' cs)
  let cs ← expect? 'T' cs <|> expect? 't' cs <|> expect? ' ' cs
  let (hour, cs) ← digits? 2 (some 2) cs
  let (minute, cs) ← digits? 2 (some 2) (← expect? ':' cs)
  let (second, cs) ← digits? 2 (some 2) (← expect? ':' cs)
  let (nanos, cs) ← fraction? cs
  let offset ← zone? cs
  let t ← instant? ⟨year, month, day⟩ hour minute second nanos
  return ⟨t.seconds - offset, t.nanos⟩

/-- A year of one to four digits, or of any number of digits after a sign. -/
def year? (cs : List Char) : Option (Int × List Char) :=
  match dropBlanks cs with
  | '-' :: rest => (digits? 1 none rest).map fun (n, rest) => (-n, rest)
  | '+' :: rest => (digits? 1 none rest).map fun (n, rest) => (n, rest)
  | cs => (digits? 1 (some 4) cs).map fun (n, rest) => (n, rest)

/-- One or two digits, after blanks. -/
def short? (cs : List Char) : Option (Nat × List Char) := digits? 1 (some 2) (dropBlanks cs)

def mark? (c : Char) (cs : List Char) : Option (List Char) := expect? c (dropBlanks cs)

/-- Year, month and day with a hyphen between each two. -/
def date? (cs : List Char) : Option (Date × List Char) := do
  let (year, cs) ← year? cs
  let (month, cs) ← short? (← mark? '-' cs)
  let (day, cs) ← short? (← mark? '-' cs)
  return (⟨year, month, day⟩, cs)

/-- A date alone, in the free form. -/
def Date.ofText? (text : String) : Option Date := do
  let (d, cs) ← date? text.toList
  if (dropBlanks cs).isEmpty && d.isValid then return d else none

/-- A date, `T` and a time of day, in the free form: blanks may stand before each field and each
mark but the point, and at the end. -/
def Instant.ofLocalText? (text : String) : Option Instant := do
  let (d, cs) ← date? text.toList
  let (hour, cs) ← short? (← mark? 'T' cs)
  let (minute, cs) ← short? (← mark? ':' cs)
  let (second, cs) ← short? (← mark? ':' cs)
  let (nanos, cs) ← fraction? cs
  if (dropBlanks cs).isEmpty then instant? d hour minute second nanos else none

end TableSql.Calendar
