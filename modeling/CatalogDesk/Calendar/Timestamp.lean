/-! # Instants

    An instant is a date of the proleptic Gregorian calendar with a time of day in
    UTC.  Dates are kept as year, month and day and move by single days, which is
    all that a change of the UTC offset asks for.  A leap second is a second
    fraction of one second or more. -/

namespace CatalogDesk

/-- A date of the proleptic Gregorian calendar. -/
structure Date where
  year : Int
  month : Nat
  day : Nat
  deriving DecidableEq, Inhabited, Repr

namespace Date

def isLeapYear (year : Int) : Bool :=
  year % 4 = 0 && (year % 100 ≠ 0 || year % 400 = 0)

/-- The number of days of a month. -/
def daysInMonth (year : Int) (month : Nat) : Nat :=
  if month = 2 then (if isLeapYear year then 29 else 28)
  else if month = 4 || month = 6 || month = 9 || month = 11 then 30
  else 31

/-- The years that a date may have. -/
def minYear : Int := -262143

/-- The years that a date may have. -/
def maxYear : Int := 262142

/-- Is there such a day? -/
def isValid (d : Date) : Bool :=
  minYear ≤ d.year && d.year ≤ maxYear && 1 ≤ d.month && d.month ≤ 12 &&
    1 ≤ d.day && d.day ≤ daysInMonth d.year d.month

/-- The day after. -/
def next (d : Date) : Date :=
  if d.day < daysInMonth d.year d.month then ⟨d.year, d.month, d.day + 1⟩
  else if d.month < 12 then ⟨d.year, d.month + 1, 1⟩
  else ⟨d.year + 1, 1, 1⟩

/-- The day before. -/
def prev (d : Date) : Date :=
  if 1 < d.day then ⟨d.year, d.month, d.day - 1⟩
  else if 1 < d.month then ⟨d.year, d.month - 1, daysInMonth d.year (d.month - 1)⟩
  else ⟨d.year - 1, 12, 31⟩

end Date

/-- An instant in UTC. -/
structure Timestamp where
  date : Date
  /-- Seconds since midnight, below 86400. -/
  second : Nat
  /-- Nanoseconds; from `10 ^ 9` on they belong to the leap second that follows. -/
  nano : Nat
  deriving DecidableEq, Inhabited, Repr

namespace Timestamp

/-- Seconds of a day. -/
def daySeconds : Nat := 86400

/-- The instant of a local date and time at the given offset to the east of UTC. -/
def ofLocal (date : Date) (second nano : Nat) (offset : Int) : Timestamp :=
  let s := (second : Int) - offset
  if s < 0 then ⟨date.prev, (s + daySeconds).toNat, nano⟩
  else if s < daySeconds then ⟨date, s.toNat, nano⟩
  else ⟨date.next, (s - daySeconds).toNat, nano⟩

/-- Hour, minute and second of the day. -/
def clock (t : Timestamp) : Nat × Nat × Nat :=
  (t.second / 3600, t.second / 60 % 60, t.second % 60)

/-- A number with at least the given count of digits. -/
def padded (width n : Nat) : String :=
  let ds := toString n
  String.ofList (List.replicate (width - ds.length) '0') ++ ds

/-- Four digits, or outside the years 0 to 9999 a sign and at least four digits. -/
def yearText (year : Int) : String :=
  if 0 ≤ year && year ≤ 9999 then padded 4 year.toNat
  else (if year < 0 then "-" else "+") ++ padded 4 year.natAbs

/-- The fraction of a second in three, six or nine digits, as many as it needs. -/
def fractionText (nano : Nat) : String :=
  if nano = 0 then ""
  else if nano % 1000000 = 0 then "." ++ padded 3 (nano / 1000000)
  else if nano % 1000 = 0 then "." ++ padded 6 (nano / 1000)
  else "." ++ padded 9 nano

/-- The written form, `2024-05-01T10:00:00+00:00`.  A leap second is second 60. -/
def text (t : Timestamp) : String :=
  let (hour, minute, second) := t.clock
  let leap := 1000000000 ≤ t.nano
  yearText t.date.year ++ "-" ++ padded 2 t.date.month ++ "-" ++ padded 2 t.date.day ++ "T" ++
    padded 2 hour ++ ":" ++ padded 2 minute ++ ":" ++
    padded 2 (if leap then second + 1 else second) ++
    fractionText (if leap then t.nano - 1000000000 else t.nano) ++ "+00:00"

/-- Date, hour and minute, as tables show them. -/
def shortText (t : Timestamp) : String :=
  let (hour, minute, _) := t.clock
  yearText t.date.year ++ "-" ++ padded 2 t.date.month ++ "-" ++ padded 2 t.date.day ++ " " ++
    padded 2 hour ++ ":" ++ padded 2 minute

end Timestamp

end CatalogDesk
