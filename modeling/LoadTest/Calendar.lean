/-!
# Calendar

Instants of coordinated universal time and their dates in the proleptic Gregorian calendar.
Days are counted from 1970-01-01. Dates exist for the years from -262143 to 262142 only.
-/

namespace LoadTest

/-- A point in time: seconds since the start of 1970, and nanoseconds below a second. -/
structure Instant where
  seconds : Int
  nanos : Nat
  deriving DecidableEq, Repr

/-- A day with its year, its month from 1 and its number in the month from 1. -/
structure Date where
  year : Int
  month : Nat
  day : Nat
  deriving DecidableEq, Repr

namespace Date

/--
The date of a day. Years are counted from the first of March, so that a leap day is the
last day of its year, and grouped in eras of 400 years with 146097 days.
-/
def ofDays (days : Int) : Date :=
  let z := days + 719468
  let era := z / 146097
  let dayOfEra := (z % 146097).toNat
  let yearOfEra := (dayOfEra - dayOfEra / 1460 + dayOfEra / 36524 - dayOfEra / 146096) / 365
  let dayOfYear := dayOfEra - (365 * yearOfEra + yearOfEra / 4 - yearOfEra / 100)
  let shifted := (5 * dayOfYear + 2) / 153
  let month := if shifted < 10 then shifted + 3 else shifted - 9
  let year := (yearOfEra : Int) + era * 400 + if month ≤ 2 then 1 else 0
  ⟨year, month, dayOfYear - (153 * shifted + 2) / 5 + 1⟩

/-- The day of a date. -/
def toDays (d : Date) : Int :=
  let y := if d.month ≤ 2 then d.year - 1 else d.year
  let era := y / 400
  let yearOfEra := (y % 400).toNat
  let shifted := if 2 < d.month then d.month - 3 else d.month + 9
  let dayOfYear := (153 * shifted + 2) / 5 + d.day - 1
  let dayOfEra := yearOfEra * 365 + yearOfEra / 4 - yearOfEra / 100 + dayOfYear
  era * 146097 + dayOfEra - 719468

/-- The number of a date in its year, from 1. -/
def dayOfYear (d : Date) : Nat := (d.toDays - toDays ⟨d.year, 1, 1⟩).toNat + 1

/-- The number of a date in its week, from 0 for Monday. -/
def weekday (d : Date) : Nat := ((d.toDays + 3) % 7).toNat

/-- The year and the number of the week of a date. A week belongs to the year that holds
its Thursday. -/
def isoWeek (d : Date) : Int × Nat :=
  let thursday := ofDays (d.toDays - d.weekday + 3)
  (thursday.year, (thursday.dayOfYear - 1) / 7 + 1)

/-- The first and the last year of the calendar. -/
def yearRange : Int × Int := (-262143, 262142)

end Date

namespace Instant

/-- The day of an instant. -/
def days (t : Instant) : Int := t.seconds / 86400

/-- The date of an instant. -/
def date (t : Instant) : Date := .ofDays t.days

/-- The seconds of an instant since midnight. -/
def secondOfDay (t : Instant) : Nat := (t.seconds % 86400).toNat

/-- The instant some seconds later, if the calendar has a date for it. -/
def shift? (t : Instant) (seconds : Int) : Option Instant :=
  let u : Instant := ⟨t.seconds + seconds, t.nanos⟩
  let year := u.date.year
  if Date.yearRange.1 ≤ year ∧ year ≤ Date.yearRange.2 then some u else none

end Instant

end LoadTest
