import SchemaForm.Proofs.Calendar.Written
import SchemaForm.Proofs.Result
import SchemaForm.Settings

/-!
# Dates under the default patterns

Forms show a date as day, month and year between points, and a time as hour and
minute after it.  Such a text reads back, and a text that is read this way tells
nothing about the seconds.

Main results:

- Theorem `write_date`, Theorem `read_pointedText`: the text of a date reads back.
- Theorem `write_dateTime`, Theorem `read_clockText`: the text of a date and time reads back without
  its seconds.
- Theorem `truncate_of_read`: a time that is read under the default pattern is a whole minute.
-/

namespace SchemaForm
namespace Calendar

open Result

/-! ## The items of the default patterns -/

namespace Pattern

/-- Day, month and year between points. -/
def dayMonthYear : List Item :=
  [zeros .day, .literal ['.'], zeros .month, .literal ['.'], zeros .year]

/-- Hour and minute after a blank. -/
def hourMinute : List Item :=
  [.blank [' '], zeros .hour, .literal [':'], zeros .minute]

theorem items_defaultDate : items (DatePatterns.date {}).toList = dayMonthYear := by
  decide

theorem items_defaultDateTime :
    items (DatePatterns.dateTime {}).toList = dayMonthYear ++ hourMinute := by
  decide

end Pattern

section Default

open Writing (two yearText)
open Reading

/-- The characters of a date between points. -/
def pointedText (date : Date) : List Char :=
  two .zero date.day ++ '.' :: (two .zero date.month ++ '.' :: yearText .zero date.year)

/-- The characters of a time after a blank. -/
def clockText (time : Time) : List Char :=
  ' ' :: (two .zero time.hour ++ ':' :: two .zero time.minute)

theorem writeItems_dayMonthYear (date : Date) (time : Option Time) :
    writeItems? date time Pattern.dayMonthYear = some (pointedText date) := by
  simp [Pattern.dayMonthYear, writeItems?, Writing.item?, Writing.numeric?, Pattern.zeros,
    pointedText]

theorem writeItems_hourMinute (date : Date) (time : Time) :
    writeItems? date (some time) Pattern.hourMinute = some (clockText time) := by
  simp [Pattern.hourMinute, writeItems?, Writing.item?, Writing.numeric?, Pattern.zeros, clockText]

/-- Day, month and year are read before a character that is no digit. -/
theorem readItems_dayMonthYear (date : Date) {rest : List Char}
    (hrest : ∀ c ∈ rest.head?, c.isDigit = false) :
    readItems Pattern.dayMonthYear {} (pointedText date ++ rest) =
      .ok (Fields.ofDate date, rest) := by
  have hmonth := date.month_le
  have hday := date.day_le_31
  rw [pointedText, List.append_assoc, List.cons_append, List.append_assoc, List.cons_append,
    Pattern.dayMonthYear,
    readItems_cons (item_two (.inr (.inl rfl)) (by omega) (tell_day rfl) _),
    readItems_cons (item_literal '.' _ _),
    readItems_cons (item_two (.inl rfl) (by omega) (tell_month rfl) _),
    readItems_cons (item_literal '.' _ _),
    readItems_cons (item_year date.natAbs_year_le (setYear_eq rfl) hrest)]
  rfl

/-- Hour and minute are read after a date. -/
theorem readItems_hourMinute (date : Date) (time : Time) :
    readItems Pattern.hourMinute (Fields.ofDate date) (clockText time) =
      .ok ((Fields.ofDate date).withClock time none, []) := by
  have hhour := time.hour_lt
  have hminute := time.minute_lt
  rw [clockText, Pattern.hourMinute,
    readItems_cons (item_space [' '] _ (two_ne_nil _) (fun c hc => isBlank_of_mem_two hc) _),
    readItems_cons (item_two (.inr (.inr (.inl rfl))) (by omega) (tell_hour rfl rfl) _),
    readItems_cons (item_literal ':' _ _), ← List.append_nil (two .zero time.minute),
    readItems_cons (item_two (.inr (.inr (.inr (.inl rfl)))) (by omega) (tell_minute rfl) _)]
  rfl

/-- The default pattern for dates writes day, month and year. -/
theorem write_date (date : Date) :
    date.write? (DatePatterns.date {}) = some (String.ofList (pointedText date)) := by
  rw [Date.write?, Pattern.items_defaultDate, writeItems_dayMonthYear, Option.map_some]

/-- The text of a date under the default pattern reads back. -/
theorem read_pointedText (date : Date) :
    Date.read (String.ofList (pointedText date)) (DatePatterns.date {}) = .ok date := by
  have hitems := @readItems_dayMonthYear date [] (by simp)
  rw [List.append_nil] at hitems
  exact Date.read_eq (by rw [Pattern.items_defaultDate, String.toList_ofList, hitems])
    (Fields.toDate_ofDate date)

/-- The default pattern for dates with a time writes them up to the minute. -/
theorem write_dateTime (moment : DateTime) :
    moment.write? (DatePatterns.dateTime {}) =
      some (String.ofList (pointedText moment.date ++ clockText moment.time)) := by
  rw [DateTime.write?, Pattern.items_defaultDateTime,
    writeItems_append _ _ (writeItems_dayMonthYear _ _) (writeItems_hourMinute _ _),
    Option.map_some]

/-- The text of a date and time under the default pattern reads back without its seconds. -/
theorem read_clockText (moment : DateTime) :
    DateTime.read (String.ofList (pointedText moment.date ++ clockText moment.time))
      (DatePatterns.dateTime {}) = .ok ⟨moment.date, moment.time.truncate⟩ := by
  have hitems : readItems (Pattern.dayMonthYear ++ Pattern.hourMinute) {}
      (pointedText moment.date ++ clockText moment.time) =
        .ok ((Fields.ofDate moment.date).withClock moment.time none, []) := by
    rw [readItems_append, readItems_dayMonthYear moment.date (by simp [clockText])]
    exact readItems_hourMinute moment.date moment.time
  exact DateTime.read_eq (by rw [Pattern.items_defaultDateTime, String.toList_ofList, hitems])
    (Fields.toDateTime_eq (Fields.toDate_withClock moment.date moment.time none)
      (Fields.toTime_withClock_none moment.date moment.time) rfl)

end Default

/-! ## Whole minutes -/

namespace Fields

/-- Nothing is told about the seconds. -/
def IsSecondless (fields : Fields) : Prop :=
  fields.second = none ∧ fields.nanosecond = none ∧ fields.timestamp = none

/-- A time that is told without seconds is a whole minute. -/
theorem IsSecondless.truncate_of_toTime {fields : Fields} (h : fields.IsSecondless) {time : Time}
    (htime : fields.toTime = .ok time) : time.truncate = time := by
  obtain ⟨hsecond, hnanosecond, -⟩ := h
  simp only [toTime, hsecond, hnanosecond] at htime
  split at htime
  · split at htime
    · rename_i hmade
      cases htime
      obtain ⟨-, -, hsecond, hnanosecond, -⟩ := Time.of?_eq_some.mp hmade
      exact Time.truncate_eq_self hsecond hnanosecond
    · cases htime
  · cases htime

/-- A date and time that is told without seconds is a whole minute. -/
theorem IsSecondless.truncate_of_toDateTime {fields : Fields} (h : fields.IsSecondless)
    {moment : DateTime} (hmoment : fields.toDateTime = .ok moment) :
    moment.time.truncate = moment.time := by
  simp only [toDateTime, h.2.2] at hmoment
  cases hdate : fields.toDate with
  | error fault => simp [hdate] at hmoment
  | ok date =>
      cases htime : fields.toTime with
      | error fault => simp [hdate, htime] at hmoment
      | ok time =>
          simp only [hdate, htime, Except.ok.injEq] at hmoment
          subst hmoment
          exact h.truncate_of_toTime htime

end Fields

section Secondless

variable {fields told : Fields} {cs rest : List Char}

/-- A number of a default pattern is told without a second. -/
theorem isSecondless_of_tell {part : NumericPart}
    (hpart : part = .day ∨ part = .month ∨ part = .year ∨ part = .hour ∨ part = .minute) {n : Int}
    (hfields : fields.IsSecondless) (h : Reading.tell fields n part = .ok told) :
    told.IsSecondless := by
  rcases hpart with rfl | rfl | rfl | rfl | rfl <;>
    simp only [Reading.tell, Fields.setDay, Fields.setMonth, Fields.setYear, Fields.setHour,
      Fields.setMinute, bind_eq_ok, pure_eq_ok] at h
  · obtain ⟨_, _, _, _, rfl⟩ := h
    exact hfields
  · obtain ⟨_, _, _, _, rfl⟩ := h
    exact hfields
  · obtain ⟨_, _, rfl⟩ := h
    exact hfields
  · obtain ⟨_, _, _, _, _, _, rfl⟩ := h
    exact hfields
  · obtain ⟨_, _, _, _, rfl⟩ := h
    exact hfields

/-- What is read as a number is told as it. -/
theorem exists_tell_of_numeric {part : NumericPart}
    (h : Reading.numeric part fields cs = .ok (told, rest)) :
    ∃ n, Reading.tell fields n part = .ok told := by
  unfold Reading.numeric at h
  split at h
  all_goals
    simp only [bind_eq_ok, pure_eq_ok, Prod.mk.injEq] at h
    obtain ⟨found, -, next, htell, rfl, -⟩ := h
    exact ⟨found.1, htell⟩

/-- An item of a default pattern tells no second. -/
theorem isSecondless_of_item {item : Item}
    (hitem : item ∈ Pattern.dayMonthYear ++ Pattern.hourMinute) (hfields : fields.IsSecondless)
    (h : Reading.item item fields cs = .ok (told, rest)) : told.IsSecondless := by
  have hkind : (∃ text, item = .literal text) ∨ (∃ text, item = .blank text) ∨
      ∃ part, item = Pattern.zeros part ∧
        (part = .day ∨ part = .month ∨ part = .year ∨ part = .hour ∨ part = .minute) := by
    simp only [Pattern.dayMonthYear, Pattern.hourMinute, List.cons_append, List.nil_append,
      List.mem_cons, List.not_mem_nil, or_false] at hitem
    rcases hitem with rfl | rfl | rfl | rfl | rfl | rfl | rfl | rfl | rfl <;> simp [Pattern.zeros]
  rcases hkind with ⟨text, rfl⟩ | ⟨text, rfl⟩ | ⟨part, rfl, hpart⟩
  · simp only [Reading.item, Reading.simpleItem] at h
    split at h
    · cases h
    · split at h
      · cases h
        exact hfields
      · cases h
  · cases h
    exact hfields
  · obtain ⟨n, htell⟩ := exists_tell_of_numeric h
    exact isSecondless_of_tell hpart hfields htell

/-- The items of a default pattern tell no second. -/
theorem isSecondless_of_readItems {items : List Item}
    (hitems : ∀ item ∈ items, item ∈ Pattern.dayMonthYear ++ Pattern.hourMinute)
    (hfields : fields.IsSecondless) (h : readItems items fields cs = .ok (told, rest)) :
    told.IsSecondless := by
  induction items generalizing fields cs with
  | nil =>
      cases h
      exact hfields
  | cons item items ih =>
      rw [readItems, bind_eq_ok] at h
      obtain ⟨⟨next, remaining⟩, hitem, hrest⟩ := h
      have hnext := isSecondless_of_item (hitems item (by simp)) hfields hitem
      exact ih (fun other hother => hitems other (by simp [hother])) hnext hrest

/-- A time that is read under the default pattern is a whole minute. -/
theorem truncate_of_read {text : String} {moment : DateTime}
    (h : DateTime.read text (DatePatterns.dateTime {}) = .ok moment) :
    moment.time.truncate = moment.time := by
  rw [DateTime.read, Pattern.items_defaultDateTime, bind_eq_ok] at h
  obtain ⟨fields, hfields, hmoment⟩ := h
  rw [readFields, bind_eq_ok] at hfields
  obtain ⟨⟨told, rest⟩, hitems, hended⟩ := hfields
  have htold : told.IsSecondless :=
    isSecondless_of_readItems (fun _ hitem => hitem) ⟨rfl, rfl, rfl⟩ hitems
  have hsame : told = fields := by
    simp only at hended
    split at hended
    · exact pure_eq_ok.mp hended
    · cases hended
  subst hsame
  exact htold.truncate_of_toDateTime hmoment

end Secondless
end Calendar
end SchemaForm
