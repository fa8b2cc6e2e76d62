import SchemaForm.Calendar.DateTime

/-!
# Partial dates

The numbers that a text has told about a date and a time.  A number told twice
has to be the same both times, and the date that follows from some of the
numbers has to agree with all the others.

Main results:

- Theorem `agree_eq_ok`: a number is accepted exactly when none or the same was told before.
-/

namespace SchemaForm
namespace Calendar

/-- Why a text is no date under a pattern. -/
inductive ReadFault where
  | outOfRange
  | impossible
  | notEnough
  | foreignCharacter
  | tooShort
  | tooLong
  | badPattern
deriving DecidableEq, Repr

/-- The wording of a fault. -/
def ReadFault.message : ReadFault → String
  | .outOfRange => "input is out of range"
  | .impossible => "no possible date and time matching input"
  | .notEnough => "input is not enough for unique date and time"
  | .foreignCharacter => "input contains invalid characters"
  | .tooShort => "premature end of input"
  | .tooLong => "trailing input"
  | .badPattern => "bad or unsupported format string"

/-- A year, or the parts of one. -/
structure YearFields where
  full : Option Int := none
  century : Option Int := none
  ofCentury : Option Int := none
deriving DecidableEq, Repr

/-- The numbers told about a date and a time. -/
structure Fields where
  year : YearFields := {}
  isoYear : YearFields := {}
  quarter : Option Int := none
  month : Option Int := none
  day : Option Int := none
  weekFromSunday : Option Int := none
  weekFromMonday : Option Int := none
  isoWeek : Option Int := none
  /-- From 0 for Monday. -/
  weekday : Option Int := none
  ordinal : Option Int := none
  /-- 0 in the first half of the day, 1 in the second. -/
  halfOfDay : Option Int := none
  hourOfHalf : Option Int := none
  minute : Option Int := none
  second : Option Int := none
  nanosecond : Option Int := none
  timestamp : Option Int := none
  /-- Minutes from universal time, which do not change the date and time that are told. -/
  offset : Option Int := none
deriving DecidableEq, Repr

/-! ## Telling a number -/

/-- Accept a number that is new or the same as before. -/
def agree (old : Option Int) (new : Int) : Except ReadFault (Option Int) :=
  match old with
  | none => .ok (some new)
  | some known => if known = new then .ok (some new) else .error .impossible

/-- A number is accepted exactly when none or the same was told before. -/
theorem agree_eq_ok {old : Option Int} {new : Int} {result : Option Int} :
    agree old new = .ok result ↔ result = some new ∧ (old = none ∨ old = some new) := by
  unfold agree
  cases old with
  | none => simp [eq_comm]
  | some known =>
      by_cases h : known = new
      · simp [h, eq_comm]
      · simp [h]

/-- A number within limits. -/
def within (low high n : Int) : Except ReadFault Int :=
  if low ≤ n ∧ n ≤ high then .ok n else .error .outOfRange

namespace YearFields

/-- Tell the full year, a signed number of 32 bits. -/
def setFull (fields : YearFields) (n : Int) : Except ReadFault YearFields := do
  let n ← within (-2147483648) 2147483647 n
  return { fields with full := ← agree fields.full n }

/-- Tell the number of centuries. -/
def setCentury (fields : YearFields) (n : Int) : Except ReadFault YearFields := do
  let n ← within 0 2147483647 n
  return { fields with century := ← agree fields.century n }

/-- Tell the year within its century. -/
def setOfCentury (fields : YearFields) (n : Int) : Except ReadFault YearFields := do
  let n ← within 0 99 n
  return { fields with ofCentury := ← agree fields.ofCentury n }

/-- The year that follows from what was told.  Two digits alone mean a year from 1970 to 2069. -/
def resolve (fields : YearFields) : Except ReadFault (Option Int) :=
  match fields.full, fields.century, fields.ofCentury with
  | full, none, none => .ok full
  | some year, century, ofCentury =>
      if year < 0 then .error .impossible
      else if century.getD (year / 100) = year / 100 ∧ ofCentury.getD (year % 100) = year % 100 then
        .ok (some year)
      else .error .impossible
  | none, some century, some ofCentury =>
      let year := century * 100 + ofCentury
      if year ≤ 2147483647 then .ok (some year) else .error .outOfRange
  | none, none, some ofCentury =>
      .ok (some (ofCentury + if ofCentury < 70 then 2000 else 1900))
  | none, some _, none => .error .notEnough

/-- Whether a year agrees with all that was told; a negative one has no century. -/
def accepts (fields : YearFields) (year : Int) : Bool :=
  fields.full.getD year == year &&
    (if 0 ≤ year then
      fields.century.getD (year / 100) == year / 100 &&
        fields.ofCentury.getD (year % 100) == year % 100
    else fields.century.isNone && fields.ofCentury.isNone)

end YearFields

namespace Fields

/-- Tell the hour on a dial of twelve. -/
def setHour12 (fields : Fields) (n : Int) : Except ReadFault Fields := do
  let n ← within 1 12 n
  return { fields with hourOfHalf := ← agree fields.hourOfHalf (n % 12) }

/-- Tell the hour of the day. -/
def setHour (fields : Fields) (n : Int) : Except ReadFault Fields := do
  let n ← within 0 23 n
  let halfOfDay ← agree fields.halfOfDay (n / 12)
  let hourOfHalf ← agree fields.hourOfHalf (n % 12)
  return { fields with halfOfDay, hourOfHalf }

/-- Tell the half of the day. -/
def setHalfOfDay (fields : Fields) (afternoon : Bool) : Except ReadFault Fields := do
  return { fields with halfOfDay := ← agree fields.halfOfDay (if afternoon then 1 else 0) }

/-- Tell the year. -/
def setYear (fields : Fields) (n : Int) : Except ReadFault Fields := do
  return { fields with year := ← fields.year.setFull n }

/-- Tell the quarter. -/
def setQuarter (fields : Fields) (n : Int) : Except ReadFault Fields := do
  return { fields with quarter := ← agree fields.quarter (← within 1 4 n) }

/-- Tell the month. -/
def setMonth (fields : Fields) (n : Int) : Except ReadFault Fields := do
  return { fields with month := ← agree fields.month (← within 1 12 n) }

/-- Tell the day of the month. -/
def setDay (fields : Fields) (n : Int) : Except ReadFault Fields := do
  return { fields with day := ← agree fields.day (← within 1 31 n) }

/-- Tell the week that starts on Sunday. -/
def setWeekFromSunday (fields : Fields) (n : Int) : Except ReadFault Fields := do
  return { fields with weekFromSunday := ← agree fields.weekFromSunday (← within 0 53 n) }

/-- Tell the week that starts on Monday. -/
def setWeekFromMonday (fields : Fields) (n : Int) : Except ReadFault Fields := do
  return { fields with weekFromMonday := ← agree fields.weekFromMonday (← within 0 53 n) }

/-- Tell the ISO week. -/
def setIsoWeek (fields : Fields) (n : Int) : Except ReadFault Fields := do
  return { fields with isoWeek := ← agree fields.isoWeek (← within 1 53 n) }

/-- Tell the day of the week, from 0 for Monday. -/
def setWeekday (fields : Fields) (n : Int) : Except ReadFault Fields := do
  return { fields with weekday := ← agree fields.weekday n }

/-- Tell the day of the year. -/
def setOrdinal (fields : Fields) (n : Int) : Except ReadFault Fields := do
  return { fields with ordinal := ← agree fields.ordinal (← within 1 366 n) }

/-- Tell the minute. -/
def setMinute (fields : Fields) (n : Int) : Except ReadFault Fields := do
  return { fields with minute := ← agree fields.minute (← within 0 59 n) }

/-- Tell the second, 60 for a leap second. -/
def setSecond (fields : Fields) (n : Int) : Except ReadFault Fields := do
  return { fields with second := ← agree fields.second (← within 0 60 n) }

/-- Tell the fraction of the second. -/
def setNanosecond (fields : Fields) (n : Int) : Except ReadFault Fields := do
  return { fields with nanosecond := ← agree fields.nanosecond (← within 0 999999999 n) }

/-- Tell the seconds since the start of 1970. -/
def setTimestamp (fields : Fields) (n : Int) : Except ReadFault Fields := do
  return { fields with timestamp := ← agree fields.timestamp n }

/-- Tell the offset from universal time. -/
def setOffset (fields : Fields) (n : Int) : Except ReadFault Fields := do
  return { fields with offset := ← agree fields.offset n }

/-! ## The date -/

/-- Whether a date agrees with year, month and day. -/
def acceptsDay (fields : Fields) (date : Date) : Bool :=
  fields.year.accepts date.year && fields.month.getD date.month == date.month &&
    fields.day.getD date.day == date.day

/-- Whether a date agrees with ISO week and day of the week. -/
def acceptsIsoWeek (fields : Fields) (date : Date) : Bool :=
  fields.isoYear.accepts date.isoWeek.1 && fields.isoWeek.getD date.isoWeek.2 == date.isoWeek.2 &&
    fields.weekday.getD date.weekday == date.weekday

/-- Whether a date agrees with the day of the year and the weeks counted from a weekday. -/
def acceptsOrdinal (fields : Fields) (date : Date) : Bool :=
  fields.ordinal.getD date.ordinal == date.ordinal &&
    fields.weekFromSunday.getD (date.weekFrom 6) == date.weekFrom 6 &&
    fields.weekFromMonday.getD (date.weekFrom 0) == date.weekFrom 0

/-- Whether a date agrees with everything but the quarter. -/
def acceptsAll (fields : Fields) (date : Date) : Bool :=
  fields.acceptsDay date && fields.acceptsIsoWeek date && fields.acceptsOrdinal date

/-- The date of a weekday in a week that is counted from the first weekday `first` of the year. -/
def dateInWeek (year : Int) (week weekday : Int) (first : Nat) : Except ReadFault Date :=
  match Date.ofOrdinal? year 1 with
  | none => .error .outOfRange
  | some newYear =>
      let start : Int := 1 + (first + 7 - newYear.weekday) % 7
      let ordinal := start + (week - 1) * 7 + (weekday + 7 - first) % 7
      if ordinal ≤ 0 then .error .impossible
      else
        match Date.ofOrdinal? year ordinal.toNat with
        | some date => .ok date
        | none => .error .impossible

/-- An optional date as a date in range. -/
def inRange (date : Option Date) : Except ReadFault Date :=
  match date with
  | some date => .ok date
  | none => .error .outOfRange

/-- A candidate for the date, from the first complete set of numbers: month and day, day of the
year, week and weekday, or ISO week and weekday.  The flag tells whether the candidate agrees with
the numbers that were not used. -/
def candidate (fields : Fields) (year isoYear : Option Int) : Except ReadFault (Bool × Date) :=
  match year, fields.month, fields.day, fields.ordinal, fields.weekFromSunday,
    fields.weekFromMonday, fields.weekday, isoYear, fields.isoWeek with
  | some year, some month, some day, _, _, _, _, _, _ => do
      let date ← inRange (Date.of? year month.toNat day.toNat)
      return (fields.acceptsIsoWeek date && fields.acceptsOrdinal date, date)
  | some year, _, _, some ordinal, _, _, _, _, _ => do
      let date ← inRange (Date.ofOrdinal? year ordinal.toNat)
      return (fields.acceptsAll date, date)
  | some year, _, _, _, some week, _, some weekday, _, _ => do
      let date ← dateInWeek year week weekday 6
      return (fields.acceptsAll date, date)
  | some year, _, _, _, _, some week, some weekday, _, _ => do
      let date ← dateInWeek year week weekday 0
      return (fields.acceptsAll date, date)
  | _, _, _, _, _, _, some weekday, some isoYear, some isoWeek => do
      let date ← inRange (Date.ofIsoWeek? isoYear isoWeek.toNat weekday.toNat)
      return (fields.acceptsDay date && fields.acceptsOrdinal date, date)
  | _, _, _, _, _, _, _, _, _ => .error .notEnough

/-- The date that the numbers tell. -/
def toDate (fields : Fields) : Except ReadFault Date := do
  let year ← fields.year.resolve
  let isoYear ← fields.isoYear.resolve
  let (agrees, date) ← fields.candidate year isoYear
  if agrees && fields.quarter.getD date.quarter == date.quarter then return date
  else throw .impossible

/-! ## The time -/

/-- The time that the numbers tell.  Seconds may be missing, but not before a fraction. -/
def toTime (fields : Fields) : Except ReadFault Time :=
  match fields.halfOfDay, fields.hourOfHalf, fields.minute with
  | some half, some hour, some minute =>
      match fields.second, fields.nanosecond with
      | none, some _ => .error .notEnough
      | second, nanosecond =>
          let written := (second.getD 0).toNat
          let leap := if written = 60 then 1000000000 else 0
          let result := Time.of? (half * 12 + hour).toNat minute.toNat
            (if written = 60 then 59 else written) (leap + (nanosecond.getD 0).toNat)
          match result with
          | some time => .ok time
          | none => .error .outOfRange
  | _, _, _ => .error .notEnough

/-- The date and time of a timestamp, which have to agree with all other numbers.  A leap second
may be told as the second before or after. -/
def ofTimestamp (fields : Fields) (timestamp : Int) : Except ReadFault DateTime := do
  let some moment := DateTime.ofTimestamp? timestamp | throw .outOfRange
  let isLeap := fields.second == some 60
  let some moment :=
    (if isLeap then
      if moment.time.second = 59 then some moment
      else if moment.time.second = 0 then DateTime.ofTimestamp? (timestamp - 1)
      else none
    else some moment) | throw .impossible
  let fields ← if isLeap then pure fields else fields.setSecond moment.time.second
  let fields ← fields.setYear moment.date.year
  let fields ← fields.setOrdinal moment.date.ordinal
  let fields ← fields.setHour moment.time.hour
  let fields ← fields.setMinute moment.time.minute
  let date ← fields.toDate
  let time ← fields.toTime
  return ⟨date, time⟩

/-- The date and time that the numbers tell.  A timestamp has to agree with them, up to a second
in a leap second, and stands in for numbers that were not told. -/
def toDateTime (fields : Fields) : Except ReadFault DateTime :=
  match fields.toDate, fields.toTime, fields.timestamp with
  | .ok date, .ok time, none => .ok ⟨date, time⟩
  | .ok date, .ok time, some told =>
      let actual := DateTime.timestamp ⟨date, time⟩
      if told = actual ∨ (time.isLeapSecond ∧ told = actual + 1) then .ok ⟨date, time⟩
      else .error .impossible
  | date, time, some told =>
      if faultOf date = some .outOfRange ∨ faultOf time = some .outOfRange then
        .error .outOfRange
      else if faultOf date = some .impossible ∨ faultOf time = some .impossible then
        .error .impossible
      else fields.ofTimestamp told
  | .error fault, _, none => .error fault
  | .ok _, .error fault, none => .error fault
where
  /-- The fault of a failed result. -/
  faultOf {α : Type} (result : Except ReadFault α) : Option ReadFault :=
    match result with
    | .ok _ => none
    | .error fault => some fault

end Fields
end Calendar
end SchemaForm
