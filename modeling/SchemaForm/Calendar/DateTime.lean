import SchemaForm.Calendar.Date

/-!
# Times of day

Times of day to the nanosecond.  A leap second has one billion nanoseconds or
more.  It may follow any second, but only after the second 59 is it read from a
text.
-/

namespace SchemaForm
namespace Calendar

/-- A time of day. -/
structure Time where
  hour : Nat
  minute : Nat
  second : Nat
  nanosecond : Nat
  hour_lt : hour < 24
  minute_lt : minute < 60
  second_lt : second < 60
  nanosecond_lt : nanosecond < 2000000000
deriving DecidableEq

namespace Time

/-- The time of these parts.  A leap second is only made after the second 59. -/
def of? (hour minute second nanosecond : Nat) : Option Time :=
  if h : hour < 24 ∧ minute < 60 ∧ second < 60 ∧ nanosecond < 2000000000 ∧
      (nanosecond < 1000000000 ∨ second = 59) then
    some ⟨hour, minute, second, nanosecond, h.1, h.2.1, h.2.2.1, h.2.2.2.1⟩
  else none

/-- The start of the day. -/
def midnight : Time :=
  ⟨0, 0, 0, 0, by decide, by decide, by decide, by decide⟩

/-- Whether the time lies in a leap second. -/
def isLeapSecond (time : Time) : Bool :=
  1000000000 ≤ time.nanosecond

/-- The second as it is written.  A leap second is written as the second that would follow, 60 after
the second 59. -/
def writtenSecond (time : Time) : Nat :=
  time.second + time.nanosecond / 1000000000

/-- The nanoseconds after the written second. -/
def fraction (time : Time) : Nat :=
  time.nanosecond % 1000000000

/-- The hour on a dial of twelve. -/
def hour12 (time : Time) : Nat :=
  if time.hour % 12 = 0 then 12 else time.hour % 12

/-- Whether the time lies in the second half of the day. -/
def isAfternoon (time : Time) : Bool :=
  12 ≤ time.hour

/-- The seconds since the start of the day. -/
def seconds (time : Time) : Nat :=
  (time.hour * 60 + time.minute) * 60 + time.second

/-- The start of the minute. -/
def truncate (time : Time) : Time :=
  { time with
    second := 0
    nanosecond := 0
    second_lt := by decide
    nanosecond_lt := by decide }

/-- The time without its fraction of a second; a leap second stays one. -/
def withoutFraction (time : Time) : Time :=
  { time with
    nanosecond := if time.isLeapSecond then 1000000000 else 0
    nanosecond_lt := by split <;> decide }

/-- The time to the second, as its written second tells it.  A leap second after the second 59 stays
one, and one after another second becomes the second that follows it. -/
def toSecond (time : Time) : Time :=
  if h : time.isLeapSecond = true ∧ time.second ≠ 59 then
    { time with
      second := time.second + 1
      nanosecond := 0
      second_lt := by
        have := time.second_lt
        omega
      nanosecond_lt := by decide }
  else time.withoutFraction

end Time

/-- A time on a day. -/
structure DateTime where
  date : Date
  time : Time
deriving DecidableEq

namespace DateTime

/-- The number of the first day of 1970. -/
def epochDay : Int := 719163

/-- The seconds since the start of 1970. -/
def timestamp (moment : DateTime) : Int :=
  (moment.date.number - epochDay) * 86400 + moment.time.seconds

/-- The time that is a number of seconds after the start of 1970. -/
def ofTimestamp? (seconds : Int) : Option DateTime :=
  let inDay := (seconds % 86400).toNat
  match Date.ofNumber? (seconds / 86400 + epochDay),
      Time.of? (inDay / 3600) (inDay / 60 % 60) (inDay % 60) 0 with
  | some date, some time => some ⟨date, time⟩
  | _, _ => none

end DateTime
end Calendar
end SchemaForm
