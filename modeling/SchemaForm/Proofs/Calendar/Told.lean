import SchemaForm.Proofs.Calendar.Weeks

/-!
# Numbers that a pattern tells

The text of a date and time tells the numbers that its pattern asks for, one after
the other.  Told again, a number of the same date and time changes nothing.

Main results:

- Theorem `value_within`: the number that a part is written as is one that can be read.
- Theorem `tell_ofSlots`: a number of a date and time is told beside others of the same.
-/

namespace SchemaForm
namespace Calendar

/-- The numbers that can be told about every date and time. -/
inductive Slot where
  | year
  | yearOfCentury
  | isoYear
  | isoYearOfCentury
  | quarter
  | month
  | day
  | weekFromSunday
  | weekFromMonday
  | isoWeek
  | weekday
  | ordinal
  | halfOfDay
  | hourOfHalf
  | minute
  | second
  | nanosecond
deriving DecidableEq, Repr

namespace Slot

/-- A number, if it is among those that are told. -/
def fill (told : List Slot) (slot : Slot) (n : Int) : Option Int :=
  if slot ∈ told then some n else none

@[simp]
theorem fill_cons_self (told : List Slot) (slot : Slot) (n : Int) :
    fill (slot :: told) slot n = some n := by
  simp [fill]

theorem fill_cons_of_ne {told : List Slot} {slot other : Slot} (h : other ≠ slot) (n : Int) :
    fill (slot :: told) other n = fill told other n := by
  simp [fill, h]

theorem fill_of_mem {told : List Slot} {slot : Slot} (h : slot ∈ told) (n : Int) :
    fill told slot n = some n :=
  if_pos h

theorem fill_of_notMem {told : List Slot} {slot : Slot} (h : slot ∉ told) (n : Int) :
    fill told slot n = none :=
  if_neg h

theorem fill_eq_some_iff {told : List Slot} {slot : Slot} {n m : Int} :
    fill told slot n = some m ↔ slot ∈ told ∧ m = n := by
  by_cases h : slot ∈ told
  · rw [fill_of_mem h, Option.some.injEq]
    exact ⟨fun heq => ⟨h, heq.symm⟩, fun heq => heq.2.symm⟩
  · rw [fill_of_notMem h]
    exact ⟨nofun, fun hmem => absurd hmem.1 h⟩

@[simp]
theorem getD_fill (told : List Slot) (slot : Slot) (n : Int) : (fill told slot n).getD n = n := by
  unfold fill
  split <;> rfl

/-- A number agrees with what was told unless another was. -/
theorem getD_fill_eq_iff {told : List Slot} {slot : Slot} {n m : Int} :
    (fill told slot n).getD m = m ↔ (slot ∈ told → m = n) := by
  by_cases h : slot ∈ told
  · rw [fill_of_mem h, Option.getD_some]
    exact ⟨fun heq _ => heq.symm, fun heq => (heq h).symm⟩
  · rw [fill_of_notMem h, Option.getD_none]
    exact ⟨fun _ hmem => absurd hmem h, fun _ => rfl⟩

/-- A number agrees with itself, whether it was told or not. -/
@[simp]
theorem agree_fill (told : List Slot) (slot : Slot) (n : Int) :
    agree (fill told slot n) n = .ok (some n) := by
  unfold fill
  split <;> simp [agree]

end Slot

namespace Fields

/-- The fields with the given numbers of a date and time; the fraction of the second may be told
with fewer digits. -/
def ofSlots (told : List Slot) (moment : DateTime) (fraction : Nat) : Fields where
  year :=
    { full := Slot.fill told .year moment.date.year
      ofCentury := Slot.fill told .yearOfCentury (moment.date.year % 100) }
  isoYear :=
    { full := Slot.fill told .isoYear moment.date.isoWeek.1
      ofCentury := Slot.fill told .isoYearOfCentury (moment.date.isoWeek.1 % 100) }
  quarter := Slot.fill told .quarter moment.date.quarter
  month := Slot.fill told .month moment.date.month
  day := Slot.fill told .day moment.date.day
  weekFromSunday := Slot.fill told .weekFromSunday (moment.date.weekFrom 6)
  weekFromMonday := Slot.fill told .weekFromMonday (moment.date.weekFrom 0)
  isoWeek := Slot.fill told .isoWeek moment.date.isoWeek.2
  weekday := Slot.fill told .weekday moment.date.weekday
  ordinal := Slot.fill told .ordinal moment.date.ordinal
  halfOfDay := Slot.fill told .halfOfDay ((moment.time.hour : Int) / 12)
  hourOfHalf := Slot.fill told .hourOfHalf ((moment.time.hour : Int) % 12)
  minute := Slot.fill told .minute moment.time.minute
  second := Slot.fill told .second moment.time.writtenSecond
  nanosecond := Slot.fill told .nanosecond fraction

/-- Nothing is told at first. -/
theorem ofSlots_nil (moment : DateTime) (fraction : Nat) : ofSlots [] moment fraction = {} := by
  simp [ofSlots, Slot.fill]

end Fields

/-! ## Telling -/

namespace NumericPart

/-- The numbers that a part tells.  A century and a timestamp cannot be told of every date and
time. -/
def slots? : NumericPart → Option (List Slot)
  | .year => some [.year]
  | .century => none
  | .yearOfCentury => some [.yearOfCentury]
  | .isoYear => some [.isoYear]
  | .isoYearOfCentury => some [.isoYearOfCentury]
  | .quarter => some [.quarter]
  | .month => some [.month]
  | .day => some [.day]
  | .weekFromSunday => some [.weekFromSunday]
  | .weekFromMonday => some [.weekFromMonday]
  | .isoWeek => some [.isoWeek]
  | .weekdayFromSunday | .weekdayFromMonday => some [.weekday]
  | .ordinal => some [.ordinal]
  | .hour => some [.halfOfDay, .hourOfHalf]
  | .hour12 => some [.hourOfHalf]
  | .minute => some [.minute]
  | .second => some [.second]
  | .nanosecond => some [.nanosecond]
  | .timestamp => none

/-- The number that a part is written as. -/
def value (moment : DateTime) : NumericPart → Int
  | .year => moment.date.year
  | .century => moment.date.year / 100
  | .yearOfCentury => moment.date.year % 100
  | .isoYear => moment.date.isoWeek.1
  | .isoYearOfCentury => moment.date.isoWeek.1 % 100
  | .quarter => moment.date.quarter
  | .month => moment.date.month
  | .day => moment.date.day
  | .weekFromSunday => moment.date.weekFrom 6
  | .weekFromMonday => moment.date.weekFrom 0
  | .isoWeek => moment.date.isoWeek.2
  | .weekdayFromSunday => ((moment.date.weekday + 1) % 7 : Nat)
  | .weekdayFromMonday => (moment.date.weekday + 1 : Nat)
  | .ordinal => moment.date.ordinal
  | .hour => moment.time.hour
  | .hour12 => moment.time.hour12
  | .minute => moment.time.minute
  | .second => moment.time.writtenSecond
  | .nanosecond => moment.time.fraction
  | .timestamp => moment.timestamp

/-- The least and the greatest number that is read as a part. -/
def limits : NumericPart → Int × Int
  | .year | .isoYear => (-2147483648, 2147483647)
  | .yearOfCentury | .isoYearOfCentury => (0, 99)
  | .quarter => (1, 4)
  | .month | .hour12 => (1, 12)
  | .day => (1, 31)
  | .weekFromSunday | .weekFromMonday => (0, 53)
  | .isoWeek => (1, 53)
  | .weekdayFromSunday => (0, 6)
  | .weekdayFromMonday => (1, 7)
  | .ordinal => (1, 366)
  | .hour => (0, 23)
  | .minute => (0, 59)
  | .second => (0, 60)
  | .nanosecond => (0, 999999999)
  | .century => (0, 2147483647)
  | .timestamp => (-9223372036854775808, 9223372036854775807)

/-- The hour on a dial of twelve is told as the hour of the half of the day. -/
theorem hour12_emod (time : Time) :
    1 ≤ time.hour12 ∧ time.hour12 ≤ 12 ∧ (time.hour12 : Int) % 12 = (time.hour : Int) % 12 := by
  unfold Time.hour12
  split <;> omega

/-- The number that a part is written as is one that can be read. -/
theorem value_within {part : NumericPart} {slots : List Slot} (hslots : part.slots? = some slots)
    (moment : DateTime) :
    part.limits.1 ≤ part.value moment ∧ part.value moment ≤ part.limits.2 := by
  have hyear := moment.date.natAbs_year_le
  have hisoYear := moment.date.natAbs_isoYear_le
  have hmonth := moment.date.month_le
  have hday := moment.date.day_le_31
  have hdayPos := moment.date.day_pos
  have hordinal := moment.date.ordinal_le
  have hordinalPos := moment.date.ordinal_pos
  have hdays := daysInYear_le moment.date.year
  have hsunday := moment.date.weekFrom_le 6
  have hmonday := moment.date.weekFrom_le 0
  have hisoWeek := moment.date.isoWeek_le
  have hweekday := moment.date.weekday_lt
  have hhour := moment.time.hour_lt
  have hdial := hour12_emod moment.time
  have hminute := moment.time.minute_lt
  have hsecond := moment.time.writtenSecond_le
  cases part <;> cases hslots <;> simp only [limits, value, Date.quarter, Time.fraction] <;> omega

end NumericPart

namespace Reading

variable {told : List Slot} {moment : DateTime} {fraction : Nat}

/-- A number of a date and time is told beside others of the same. -/
theorem tell_ofSlots {part : NumericPart} {slots : List Slot} (hslots : part.slots? = some slots)
    (hfraction : part = .nanosecond → fraction = moment.time.fraction) :
    tell (Fields.ofSlots told moment fraction) (part.value moment) part =
      .ok (Fields.ofSlots (slots ++ told) moment fraction) := by
  obtain ⟨hlow, hhigh⟩ := NumericPart.value_within hslots moment
  have hwithin := within_eq hlow hhigh
  have hdial := (NumericPart.hour12_emod moment.time).2.2
  have hweekday := moment.date.weekday_lt
  have hsunday : ((((moment.date.weekday + 1) % 7 : Nat) : Int) + 6) % 7 = moment.date.weekday := by
    omega
  have hmonday : ((moment.date.weekday + 1 : Nat) : Int) - 1 = moment.date.weekday := by omega
  cases part <;> cases hslots <;> simp only [NumericPart.limits, NumericPart.value] at hwithin ⊢ <;>
    simp only [tell, Fields.setYear, YearFields.setFull, YearFields.setOfCentury,
      Fields.setQuarter, Fields.setMonth, Fields.setDay, Fields.setWeekFromSunday,
      Fields.setWeekFromMonday, Fields.setIsoWeek, Fields.setOrdinal, Fields.setHour,
      Fields.setHour12, Fields.setMinute, Fields.setSecond, Fields.setNanosecond, hwithin,
      bind, Except.bind, hsunday, hmonday, hdial] <;>
    simp [Fields.ofSlots, Fields.setWeekday, hfraction, bind, Except.bind, pure, Except.pure,
      Slot.fill_cons_of_ne]

/-- The day of the week is told beside other numbers. -/
theorem setWeekday_ofSlots :
    (Fields.ofSlots told moment fraction).setWeekday moment.date.weekday =
      .ok (Fields.ofSlots (.weekday :: told) moment fraction) := by
  simp [Fields.ofSlots, Fields.setWeekday, bind, Except.bind, pure, Except.pure,
    Slot.fill_cons_of_ne]

/-- The half of the day is told beside other numbers. -/
theorem setHalfOfDay_ofSlots :
    (Fields.ofSlots told moment fraction).setHalfOfDay moment.time.isAfternoon =
      .ok (Fields.ofSlots (.halfOfDay :: told) moment fraction) := by
  have hhour := moment.time.hour_lt
  have hhalf : (if moment.time.isAfternoon = true then (1 : Int) else 0) =
      (moment.time.hour : Int) / 12 := by
    unfold Time.isAfternoon
    split <;> simp_all <;> omega
  simp [Fields.ofSlots, Fields.setHalfOfDay, hhalf, bind, Except.bind, pure, Except.pure,
    Slot.fill_cons_of_ne]

/-- The fraction of the second is told beside other numbers. -/
theorem setNanosecond_ofSlots (h : fraction ≤ 999999999) :
    (Fields.ofSlots told moment fraction).setNanosecond fraction =
      .ok (Fields.ofSlots (.nanosecond :: told) moment fraction) := by
  have hwithin : within 0 999999999 (fraction : Int) = .ok (fraction : Int) :=
    within_eq (by omega) (by omega)
  simp [Fields.ofSlots, Fields.setNanosecond, hwithin, bind, Except.bind, pure, Except.pure,
    Slot.fill_cons_of_ne]

end Reading

end Calendar
end SchemaForm
