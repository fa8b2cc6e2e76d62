/-!
# Dates of the Gregorian calendar

Dates of the Gregorian calendar, extended to all years from -262143 to 262142.
Year zero exists and is a leap year.  Weeks follow ISO 8601 or start on the
first Sunday or Monday of the year.

Main results:

- Theorem `of?_eq_some`: exactly the days of the calendar make a date.
- Theorem `ordinal_pos`: the days of a year are counted from one.
-/

namespace SchemaForm
namespace Calendar

/-! ## Years and months -/

/-- Whether a year has a 29th of February. -/
def isLeap (year : Int) : Bool :=
  year % 4 == 0 && (year % 100 != 0 || year % 400 == 0)

/-- The number of days of a month; other numbers than 1 to 12 are no month. -/
def daysInMonth (year : Int) (month : Nat) : Nat :=
  match month with
  | 1 | 3 | 5 | 7 | 8 | 10 | 12 => 31
  | 4 | 6 | 9 | 11 => 30
  | 2 => if isLeap year then 29 else 28
  | _ => 0

/-- The number of days of a year. -/
def daysInYear (year : Int) : Nat :=
  if isLeap year then 366 else 365

/-- The number of days of a year before a month. -/
def daysBefore (year : Int) : Nat → Nat
  | 0 => 0
  | month + 1 => daysBefore year month + daysInMonth year month

/-- The years that dates may have. -/
def leastYear : Int := -262143

/-- The last year that dates may have. -/
def greatestYear : Int := 262142

/-- A day of the calendar. -/
structure Date where
  year : Int
  month : Nat
  day : Nat
  year_le : leastYear ≤ year ∧ year ≤ greatestYear
  day_pos : 1 ≤ day
  day_le : day ≤ daysInMonth year month
deriving DecidableEq

namespace Date

/-- The date of a year, a month and a day of the month. -/
def of? (year : Int) (month day : Nat) : Option Date :=
  if h : (leastYear ≤ year ∧ year ≤ greatestYear) ∧ 1 ≤ day ∧ day ≤ daysInMonth year month then
    some ⟨year, month, day, h.1, h.2.1, h.2.2⟩
  else none

/-- Exactly the days of the calendar make a date. -/
theorem of?_eq_some {year : Int} {month day : Nat} {date : Date} :
    of? year month day = some date ↔
      date.year = year ∧ date.month = month ∧ date.day = day := by
  constructor
  · intro h
    unfold of? at h
    split at h
    · cases h
      exact ⟨rfl, rfl, rfl⟩
    · cases h
  · rintro ⟨rfl, rfl, rfl⟩
    unfold of?
    rw [dif_pos ⟨date.year_le, date.day_pos, date.day_le⟩]

/-- Every date is made from its parts. -/
theorem of?_self (date : Date) : of? date.year date.month date.day = some date :=
  of?_eq_some.mpr ⟨rfl, rfl, rfl⟩

/-! ## Counting days -/

/-- The number of the day within its year, from one. -/
def ordinal (date : Date) : Nat :=
  daysBefore date.year date.month + date.day

/-- The days of a year are counted from one. -/
theorem ordinal_pos (date : Date) : 1 ≤ date.ordinal := by
  have := date.day_pos
  unfold ordinal
  omega

/-- Find the month of the `n`-th day counted from the start of `month`. -/
def findMonth (year : Int) : Nat → Nat → Nat → Nat × Nat
  | 0, month, n => (month, n)
  | steps + 1, month, n =>
      if n ≤ daysInMonth year month then (month, n)
      else findMonth year steps (month + 1) (n - daysInMonth year month)

/-- The date of a year and the number of the day within it. -/
def ofOrdinal? (year : Int) (ordinal : Nat) : Option Date :=
  if 1 ≤ ordinal ∧ ordinal ≤ daysInYear year then
    let (month, day) := findMonth year 12 1 ordinal
    of? year month day
  else none

/-- Number of a day of a year on the line of all days; the first of January of year 1 has
number 1. -/
def dayNumber (year : Int) (ordinal : Int) : Int :=
  let past := year - 1
  365 * past + past / 4 - past / 100 + past / 400 + ordinal

/-- Number of a date on the line of all days. -/
def number (date : Date) : Int :=
  dayNumber date.year date.ordinal

/-- Year and day of the year of a number on the line of all days: whole periods of 400, 100, 4
years and one year are taken off in turn. -/
def yearOfNumber (number : Int) : Int × Nat :=
  let days := number - 1
  let era := days / 146097
  let inEra := (days % 146097).toNat
  let centuries := min 3 (inEra / 36524)
  let inCentury := inEra - centuries * 36524
  let fours := inCentury / 1461
  let inFour := inCentury % 1461
  let years := min 3 (inFour / 365)
  (400 * era + (100 * centuries + 4 * fours + years + 1 : Nat), inFour - years * 365 + 1)

/-- The date of a number on the line of all days. -/
def ofNumber? (number : Int) : Option Date :=
  let (year, ordinal) := yearOfNumber number
  ofOrdinal? year ordinal

/-! ## Weeks -/

/-- The day of the week of a day of a year, from 0 for Monday to 6 for Sunday. -/
def weekdayOf (year : Int) (ordinal : Int) : Nat :=
  ((dayNumber year ordinal - 1) % 7).toNat

/-- The day of the week, from 0 for Monday to 6 for Sunday. -/
def weekday (date : Date) : Nat :=
  weekdayOf date.year date.ordinal

/-- The number of the week when weeks start on the given weekday and days before the first such
day are in week 0. -/
def weekFrom (first : Nat) (date : Date) : Nat :=
  (date.ordinal + 6 - (date.weekday + 7 - first) % 7) / 7

/-- The quarter of the year, from one. -/
def quarter (date : Date) : Nat :=
  (date.month + 2) / 3

/-- Year and number of the ISO week, which belong to the Thursday of that week. -/
def isoWeek (date : Date) : Int × Nat :=
  let thursday : Int := (date.ordinal : Int) + 3 - date.weekday
  if thursday < 1 then
    (date.year - 1, ((thursday + daysInYear (date.year - 1) - 1) / 7 + 1).toNat)
  else if (daysInYear date.year : Int) < thursday then (date.year + 1, 1)
  else (date.year, ((thursday - 1) / 7 + 1).toNat)

/-- The number of ISO weeks of a year: 53 when its first or last day is a Thursday. -/
def isoWeeks (year : Int) : Nat :=
  if weekdayOf year 1 = 3 ∨ weekdayOf year (daysInYear year) = 3 then 53 else 52

/-- Day of the year, possibly before its start or after its end, of a weekday of an ISO week. -/
def isoOrdinal (year : Int) (week weekday : Nat) : Int :=
  let first := weekdayOf year 1
  let monday : Int := if first ≤ 3 then 1 - (first : Int) else 8 - first
  monday + 7 * ((week : Int) - 1) + weekday

/-- The date of a weekday of an ISO week. -/
def ofIsoWeek? (year : Int) (week weekday : Nat) : Option Date :=
  if week = 0 ∨ isoWeeks year < week then none
  else
    let ordinal := isoOrdinal year week weekday
    if ordinal < 1 then ofOrdinal? (year - 1) (ordinal + daysInYear (year - 1)).toNat
    else if (daysInYear year : Int) < ordinal then
      ofOrdinal? (year + 1) (ordinal - daysInYear year).toNat
    else ofOrdinal? year ordinal.toNat

end Date
end Calendar
end SchemaForm
