import SchemaForm.Calendar.Iso
import SchemaForm.Proofs.Calendar.Number

/-!
# Dates read back from their text

Each item of a text tells one number, and the numbers of a whole date or time
determine it.  So the text of a date in a document, which is written and read by
the same items, stands for that date.

Main results:

- Theorem `of?_writtenSecond`: a written second tells the time to the second.
- Theorem `isLeapSecond_toSecond`, Theorem `toSecond_eq_withoutFraction_iff`: what becomes of a leap
  second, by the second that it follows.
- Theorem `toDate_ofDate`, Theorem `toTime_withClock`: the numbers of a date and of a time tell
  them.
- Theorem `item_two`, Theorem `item_year`: a written number is told.
- Theorem `write_datePattern`, Theorem `write_dateTimePattern`: the text of a document is the text
  that its pattern writes.
- Theorem `readDate_dateText`, Theorem `readDateTime_secondText`: the text of a document reads
  back.
-/

namespace SchemaForm
namespace Calendar

/-! ## Numbers that are told -/

namespace Date

theorem month_le (date : Date) : 1 ≤ date.month ∧ date.month ≤ 12 := by
  have hpos := date.day_pos
  have hle := date.day_le
  unfold daysInMonth at hle
  split at hle <;> omega

theorem day_le_31 (date : Date) : date.day ≤ 31 := by
  have hmonth : ∀ year month, daysInMonth year month ≤ 31 := by
    intro year month
    unfold daysInMonth
    split <;> first | omega | (split <;> omega)
  exact Nat.le_trans date.day_le (hmonth _ _)

theorem natAbs_year_le (date : Date) : date.year.natAbs ≤ 262143 := by
  have hyear := date.year_le
  unfold leastYear greatestYear at hyear
  omega

end Date

namespace Time

theorem writtenSecond_le (time : Time) : time.writtenSecond ≤ 60 := by
  have hsecond := time.second_lt
  have hnanosecond := time.nanosecond_lt
  unfold writtenSecond
  omega

/-- Exactly the parts of a time make it, and a leap second only after the second 59. -/
theorem of?_eq_some {hour minute second nanosecond : Nat} {time : Time} :
    of? hour minute second nanosecond = some time ↔
      time.hour = hour ∧ time.minute = minute ∧ time.second = second ∧
        time.nanosecond = nanosecond ∧ (nanosecond < 1000000000 ∨ second = 59) := by
  constructor
  · intro h
    unfold of? at h
    split at h
    · rename_i hparts
      cases h
      exact ⟨rfl, rfl, rfl, rfl, hparts.2.2.2.2⟩
    · cases h
  · rintro ⟨rfl, rfl, rfl, rfl, hleap⟩
    unfold of?
    rw [dif_pos ⟨time.hour_lt, time.minute_lt, time.second_lt, time.nanosecond_lt, hleap⟩]

/-- Every time is made from its parts, a leap second only after the second 59. -/
theorem of?_self {time : Time} (h : time.nanosecond < 1000000000 ∨ time.second = 59) :
    of? time.hour time.minute time.second time.nanosecond = some time :=
  of?_eq_some.mpr ⟨rfl, rfl, rfl, rfl, h⟩

/-- A time without seconds is a whole minute. -/
theorem truncate_eq_self {time : Time} (hsecond : time.second = 0)
    (hnanosecond : time.nanosecond = 0) : time.truncate = time := by
  cases time
  subst hsecond hnanosecond
  rfl

theorem isLeapSecond_iff {time : Time} :
    time.isLeapSecond = true ↔ 1000000000 ≤ time.nanosecond :=
  decide_eq_true_iff

theorem hour_toSecond (time : Time) : time.toSecond.hour = time.hour := by
  unfold toSecond
  split <;> rfl

theorem minute_toSecond (time : Time) : time.toSecond.minute = time.minute := by
  unfold toSecond
  split <;> rfl

/-- The second and nanosecond of the time to the second.  A leap second after another second than 59
becomes the next second, and every other time loses its fraction. -/
theorem toSecond_cases (time : Time) :
    (time.nanosecond < 1000000000 ∧ time.toSecond.second = time.second ∧
        time.toSecond.nanosecond = 0) ∨
      (1000000000 ≤ time.nanosecond ∧ time.second = 59 ∧ time.toSecond.second = 59 ∧
        time.toSecond.nanosecond = 1000000000) ∨
      (1000000000 ≤ time.nanosecond ∧ time.second ≠ 59 ∧
        time.toSecond.second = time.second + 1 ∧ time.toSecond.nanosecond = 0) := by
  by_cases hleap : time.isLeapSecond = true
  · have hle := isLeapSecond_iff.mp hleap
    by_cases hlast : time.second = 59
    · exact .inr (.inl ⟨hle, hlast, by simp [toSecond, withoutFraction, hleap, hlast]⟩)
    · exact .inr (.inr ⟨hle, hlast, by simp [toSecond, hleap, hlast]⟩)
  · have hlt := Nat.lt_of_not_le (mt isLeapSecond_iff.mpr hleap)
    exact .inl ⟨hlt, by simp [toSecond, withoutFraction, hleap]⟩

/-- The time to the second has no fraction. -/
theorem fraction_toSecond (time : Time) : time.toSecond.fraction = 0 := by
  rcases time.toSecond_cases with ⟨-, -, h⟩ | ⟨-, -, -, h⟩ | ⟨-, -, -, h⟩ <;> simp [fraction, h]

/-- The time to the second has the written second of the time. -/
theorem writtenSecond_toSecond (time : Time) :
    time.toSecond.writtenSecond = time.writtenSecond := by
  have hcases := time.toSecond_cases
  have hnanosecond := time.nanosecond_lt
  unfold writtenSecond
  omega

/-- To the second, only a leap second after the second 59 is one. -/
theorem isLeapSecond_toSecond (time : Time) :
    time.toSecond.isLeapSecond = (time.isLeapSecond && time.second == 59) := by
  have hcases := time.toSecond_cases
  rw [Bool.eq_iff_iff, Bool.and_eq_true, beq_iff_eq, isLeapSecond_iff, isLeapSecond_iff]
  omega

/-- Only a leap second after another second than 59 does not keep its second. -/
theorem toSecond_eq_withoutFraction_iff (time : Time) :
    time.toSecond = time.withoutFraction ↔ time.isLeapSecond = false ∨ time.second = 59 := by
  constructor
  · intro heq
    have hsecond : time.toSecond.second = time.second := by rw [heq]; rfl
    have hcases := time.toSecond_cases
    rw [← Bool.not_eq_true, isLeapSecond_iff]
    omega
  · intro h
    refine dif_neg fun hstray => ?_
    rcases h with hleap | hlast
    · exact absurd hstray.1 (by simp [hleap])
    · exact hstray.2 hlast

/-- The written second tells the time to the second.  Where it is 60 it tells the second 59 and a
leap second. -/
theorem of?_writtenSecond (time : Time) :
    of? time.hour time.minute (if time.writtenSecond = 60 then 59 else time.writtenSecond)
      (if time.writtenSecond = 60 then 1000000000 else 0) = some time.toSecond := by
  have hsecond := time.second_lt
  have hnanosecond := time.nanosecond_lt
  have hwritten : time.writtenSecond = time.second + time.nanosecond / 1000000000 := rfl
  have hcases := time.toSecond_cases
  refine of?_eq_some.mpr ⟨hour_toSecond time, minute_toSecond time, ?_⟩
  split <;> omega

end Time

namespace Fields

/-- The numbers that the text of a date tells. -/
def ofDate (date : Date) : Fields where
  year := { full := some date.year }
  month := some date.month
  day := some date.day

/-- The numbers that the text of a time tells beside those of a date. -/
def withClock (fields : Fields) (time : Time) (second : Option Int) : Fields :=
  { fields with
    halfOfDay := some ((time.hour : Int) / 12)
    hourOfHalf := some ((time.hour : Int) % 12)
    minute := some (time.minute : Int)
    second := second }

theorem accepts_nothing (year : Int) : YearFields.accepts {} year = true := by
  simp [YearFields.accepts]

/-- The numbers of a date tell it, whatever they tell about the time. -/
theorem toDate_eq {fields : Fields} {date : Date} (hyear : fields.year = { full := some date.year })
    (hmonth : fields.month = some (date.month : Int)) (hday : fields.day = some (date.day : Int))
    (hisoYear : fields.isoYear = {}) (hisoWeek : fields.isoWeek = none)
    (hweekday : fields.weekday = none) (hordinal : fields.ordinal = none)
    (hsunday : fields.weekFromSunday = none) (hmonday : fields.weekFromMonday = none)
    (hquarter : fields.quarter = none) : fields.toDate = .ok date := by
  have haccepts : (fields.acceptsIsoWeek date && fields.acceptsOrdinal date) = true := by
    simp [acceptsIsoWeek, acceptsOrdinal, hisoYear, hisoWeek, hweekday, hordinal, hsunday, hmonday,
      accepts_nothing]
  have hcandidate : fields.candidate (some date.year) none = .ok (true, date) := by
    simp only [candidate, hmonth, hday, Int.toNat_natCast, Date.of?_self, inRange, bind,
      Except.bind, haccepts]
    rfl
  simp only [toDate, hyear, hisoYear, YearFields.resolve, bind, Except.bind, hcandidate, hquarter]
  simp [pure, Except.pure]

/-- The numbers of a date tell it. -/
theorem toDate_ofDate (date : Date) : (ofDate date).toDate = .ok date :=
  toDate_eq rfl rfl rfl rfl rfl rfl rfl rfl rfl rfl

theorem toDate_withClock (date : Date) (time : Time) (second : Option Int) :
    ((ofDate date).withClock time second).toDate = .ok date :=
  toDate_eq rfl rfl rfl rfl rfl rfl rfl rfl rfl rfl

theorem hour_of_halves (hour : Nat) :
    ((hour : Int) / 12 * 12 + (hour : Int) % 12).toNat = hour := by
  omega

/-- The hour and minute of a time tell it up to the minute. -/
theorem toTime_withClock_none (date : Date) (time : Time) :
    ((ofDate date).withClock time none).toTime = .ok time.truncate := by
  have htime := @Time.of?_self time.truncate (.inl (by decide : 0 < 1000000000))
  simp only [Time.truncate] at htime ⊢
  simp [toTime, withClock, ofDate, hour_of_halves, htime]

/-- The hour, minute and written second of a time tell it up to the second. -/
theorem toTime_withClock (date : Date) (time : Time) :
    ((ofDate date).withClock time (some (time.writtenSecond : Int))).toTime =
      .ok time.toSecond := by
  have htime := time.of?_writtenSecond
  simp [toTime, withClock, ofDate, hour_of_halves, htime]

/-- A date and a time that are told without a timestamp are the date and time that is told. -/
theorem toDateTime_eq {fields : Fields} {date : Date} {time : Time}
    (hdate : fields.toDate = .ok date) (htime : fields.toTime = .ok time)
    (htimestamp : fields.timestamp = none) : fields.toDateTime = .ok ⟨date, time⟩ := by
  simp [toDateTime, hdate, htime, htimestamp]

end Fields

/-! ## Items -/

namespace Reading

open Writing (two yearText)

theorem within_eq {low high n : Int} (hlow : low ≤ n) (hhigh : n ≤ high) :
    within low high n = .ok n :=
  if_pos ⟨hlow, hhigh⟩

theorem item_literal (c : Char) (fields : Fields) (rest : List Char) :
    item (.literal [c]) fields (c :: rest) = .ok (fields, rest) := by
  simp [item, simpleItem, byteLength]

/-- No blanks are skipped before another character. -/
theorem item_blank_cons (text : List Char) (fields : Fields) {c : Char}
    (hc : Text.isBlank c = false) (rest : List Char) :
    item (.blank text) fields (c :: rest) = .ok (fields, c :: rest) := by
  have htrim : Text.trimStart (c :: rest) = c :: rest := Text.trimStart_eq_self (by simpa using hc)
  simp [item, simpleItem, htrim]

/-- Blanks are skipped before a text without any. -/
theorem item_space (text : List Char) (fields : Fields) {cs : List Char} (hcs : cs ≠ [])
    (h : ∀ c ∈ cs, Text.isBlank c = false) (rest : List Char) :
    item (.blank text) fields (' ' :: (cs ++ rest)) = .ok (fields, cs ++ rest) := by
  have htrim : Text.trimStart (' ' :: (cs ++ rest)) = Text.trimStart (cs ++ rest) := rfl
  simp [item, simpleItem, htrim, Text.trimStart_append hcs h]

theorem two_ne_nil (n : Nat) : two .zero n ≠ [] :=
  Writing.fill_ne_nil 2 n

theorem isBlank_of_mem_two {n : Nat} {c : Char} (h : c ∈ two .zero n) : Text.isBlank c = false :=
  Text.isBlank_of_isDigit (Writing.isDigit_of_mem_fill h)

/-- A number of two digits is told. -/
theorem item_two {part : NumericPart}
    (hpart : part = .month ∨ part = .day ∨ part = .hour ∨ part = .minute ∨ part = .second)
    {n : Nat} (hn : n < 100) {fields told : Fields} (htell : tell fields n part = .ok told)
    (rest : List Char) :
    item (Pattern.zeros part) fields (two .zero n ++ rest) = .ok (told, rest) := by
  have htrim : Text.trimStart (two .zero n ++ rest) = two .zero n ++ rest :=
    Text.trimStart_append (two_ne_nil n) (fun c hc => isBlank_of_mem_two hc) rest
  rcases hpart with rfl | rfl | rfl | rfl | rfl <;>
    simp [item, simpleItem, Pattern.zeros, numeric, htrim, width, number_two hn, htell, bind,
      Except.bind, pure, Except.pure]

/-- A year is told. -/
theorem item_year {year : Int} (hyear : year.natAbs ≤ 262143) {fields told : Fields}
    (htell : fields.setYear year = .ok told) {rest : List Char}
    (hrest : ∀ c ∈ rest.head?, c.isDigit = false) :
    item (Pattern.zeros .year) fields (yearText .zero year ++ rest) = .ok (told, rest) := by
  have htrim : Text.trimStart (yearText .zero year ++ rest) = yearText .zero year ++ rest :=
    Text.trimStart_append (yearText_ne_nil year) (fun c hc => isBlank_of_mem_yearText hc) rest
  simp [item, simpleItem, Pattern.zeros, numeric, htrim, width, signedNumber_yearText hyear hrest,
    tell, htell, bind, Except.bind, pure, Except.pure]

section Telling

variable {fields : Fields} {date : Date} {time : Time}

theorem setYear_eq (h : fields.year = {}) :
    fields.setYear date.year = .ok { fields with year := { full := some date.year } } := by
  have hyear := date.natAbs_year_le
  have hwithin : within (-2147483648) 2147483647 date.year = .ok date.year :=
    within_eq (by omega) (by omega)
  simp [Fields.setYear, YearFields.setFull, hwithin, h, agree, bind, Except.bind, pure, Except.pure]

theorem tell_month (h : fields.month = none) :
    tell fields date.month .month = .ok { fields with month := some (date.month : Int) } := by
  have hmonth := date.month_le
  have hwithin : within 1 12 (date.month : Int) = .ok (date.month : Int) :=
    within_eq (by omega) (by omega)
  simp [tell, Fields.setMonth, hwithin, h, agree, bind, Except.bind, pure, Except.pure]

theorem tell_day (h : fields.day = none) :
    tell fields date.day .day = .ok { fields with day := some (date.day : Int) } := by
  have hpos := date.day_pos
  have hle := date.day_le_31
  have hwithin : within 1 31 (date.day : Int) = .ok (date.day : Int) :=
    within_eq (by omega) (by omega)
  simp [tell, Fields.setDay, hwithin, h, agree, bind, Except.bind, pure, Except.pure]

theorem tell_hour (h : fields.halfOfDay = none) (h' : fields.hourOfHalf = none) :
    tell fields time.hour .hour =
      .ok
        { fields with
          halfOfDay := some ((time.hour : Int) / 12)
          hourOfHalf := some ((time.hour : Int) % 12) } := by
  have hhour := time.hour_lt
  have hwithin : within 0 23 (time.hour : Int) = .ok (time.hour : Int) :=
    within_eq (by omega) (by omega)
  simp [tell, Fields.setHour, hwithin, h, h', agree, bind, Except.bind, pure, Except.pure]

theorem tell_minute (h : fields.minute = none) :
    tell fields time.minute .minute = .ok { fields with minute := some (time.minute : Int) } := by
  have hminute := time.minute_lt
  have hwithin : within 0 59 (time.minute : Int) = .ok (time.minute : Int) :=
    within_eq (by omega) (by omega)
  simp [tell, Fields.setMinute, hwithin, h, agree, bind, Except.bind, pure, Except.pure]

theorem tell_second (h : fields.second = none) :
    tell fields time.writtenSecond .second =
      .ok { fields with second := some (time.writtenSecond : Int) } := by
  have hwritten := time.writtenSecond_le
  have hwithin : within 0 60 (time.writtenSecond : Int) = .ok (time.writtenSecond : Int) :=
    within_eq (by omega) (by omega)
  simp [tell, Fields.setSecond, hwithin, h, agree, bind, Except.bind, pure, Except.pure]

end Telling

end Reading

/-- Items are read in turn. -/
theorem readItems_cons {first : Item} {items : List Item} {fields told : Fields}
    {cs rest : List Char} (h : Reading.item first fields cs = .ok (told, rest)) :
    readItems (first :: items) fields cs = readItems items told rest := by
  simp [readItems, h, bind, Except.bind]

/-- Items that use up a text tell the numbers of the text. -/
theorem readFields_eq {items : List Item} {text : String} {fields : Fields}
    (h : readItems items {} text.toList = .ok (fields, [])) :
    readFields items text = .ok fields := by
  simp [readFields, h, bind, Except.bind, pure, Except.pure]

/-- Items that use up a text and tell a date make the text that date. -/
theorem Date.read_eq {text pattern : String} {fields : Fields} {date : Date}
    (h : readItems (Pattern.items pattern.toList) {} text.toList = .ok (fields, []))
    (hdate : fields.toDate = .ok date) : Date.read text pattern = .ok date := by
  rw [Date.read, readFields_eq h]
  exact hdate

/-- Items that use up a text and tell a date and time make the text that date and time. -/
theorem DateTime.read_eq {text pattern : String} {fields : Fields} {moment : DateTime}
    (h : readItems (Pattern.items pattern.toList) {} text.toList = .ok (fields, []))
    (hmoment : fields.toDateTime = .ok moment) : DateTime.read text pattern = .ok moment := by
  rw [DateTime.read, readFields_eq h]
  exact hmoment

/-! ## Dates in documents -/

namespace Iso

open Writing (two yearText)
open Reading

/-- A date of a document is written as its pattern says. -/
theorem write_datePattern (date : Date) : date.write? datePattern = some (dateText date) := by
  have hitems : Pattern.items datePattern.toList =
      [Pattern.zeros .year, .literal ['-'], Pattern.zeros .month, .literal ['-'],
        Pattern.zeros .day] := by
    decide
  simp [Date.write?, hitems, writeItems?, Writing.item?, Writing.numeric?, Pattern.zeros, dateText]

/-- A date and time of a document is written as its pattern says. -/
theorem write_dateTimePattern (moment : DateTime) :
    moment.write? dateTimePattern = some (secondText moment) := by
  have hitems : Pattern.items dateTimePattern.toList =
      [Pattern.zeros .year, .literal ['-'], Pattern.zeros .month, .literal ['-'],
        Pattern.zeros .day, .literal ['T'], Pattern.zeros .hour, .literal [':'],
        Pattern.zeros .minute, .literal [':'], Pattern.zeros .second] := by
    decide
  simp [DateTime.write?, hitems, writeItems?, Writing.item?, Writing.numeric?, Pattern.zeros,
    secondText, dateText, String.append_assoc]

/-- The characters of a date of a document. -/
theorem toList_dateText (date : Date) :
    (dateText date).toList =
      yearText .zero date.year ++ '-' :: two .zero date.month ++ '-' :: two .zero date.day := by
  simp [dateText]

/-- The items of a date read its text, and blanks after it. -/
theorem readItems_dateText (date : Date) (rest : List Char) :
    readItems dateItems {} ((dateText date).toList ++ rest) =
      .ok (Fields.ofDate date, Text.trimStart rest) := by
  have hmonth := date.month_le
  have hday := date.day_le_31
  rw [toList_dateText, List.append_assoc, List.append_assoc, List.cons_append, List.cons_append,
    dateItems,
    readItems_cons (item_year date.natAbs_year_le (setYear_eq rfl) (by simp)),
    readItems_cons (item_blank_cons [] _ rfl _), readItems_cons (item_literal '-' _ _),
    readItems_cons (item_two (.inl rfl) (by omega) (tell_month rfl) _),
    readItems_cons (item_blank_cons [] _ rfl _), readItems_cons (item_literal '-' _ _),
    readItems_cons (item_two (.inr (.inl rfl)) (by omega) (tell_day rfl) _)]
  rfl

/-- The text of a date in a document reads back. -/
theorem readDate_dateText (date : Date) : readDate (dateText date) = .ok date := by
  have hitems := readItems_dateText date []
  rw [List.append_nil] at hitems
  rw [readDate, readFields_eq hitems]
  exact Fields.toDate_ofDate date

/-- The characters of a date and time of a document. -/
theorem toList_secondText (moment : DateTime) :
    (secondText moment).toList =
      (dateText moment.date).toList ++ 'T' :: (two .zero moment.time.hour ++
        ':' :: (two .zero moment.time.minute ++ ':' :: two .zero moment.time.writtenSecond)) := by
  simp [secondText]

/-- The text of a date and time in a document reads back to the second. -/
theorem readDateTime_secondText (moment : DateTime) :
    readDateTime (secondText moment) = .ok ⟨moment.date, moment.time.toSecond⟩ := by
  have hhour := moment.time.hour_lt
  have hminute := moment.time.minute_lt
  have hsecond := moment.time.writtenSecond_le
  have hitems : readItems dateTimeItems {} (secondText moment).toList =
      .ok ((Fields.ofDate moment.date).withClock moment.time
        (some (moment.time.writtenSecond : Int)), []) := by
    rw [dateTimeItems, readItems_append, toList_secondText, readItems_dateText]
    simp only [Except.bind]
    rw [Text.trimStart_eq_self (by simp; rfl), readItems_cons (item_literal 'T' _ _),
      readItems_cons (item_two (.inr (.inr (.inl rfl))) (by omega) (tell_hour rfl rfl) _),
      readItems_cons (item_blank_cons [] _ rfl _), readItems_cons (item_literal ':' _ _),
      readItems_cons (item_two (.inr (.inr (.inr (.inl rfl)))) (by omega) (tell_minute rfl) _),
      readItems_cons (item_blank_cons [] _ rfl _), readItems_cons (item_literal ':' _ _),
      ← List.append_nil (two .zero moment.time.writtenSecond),
      readItems_cons (item_two (.inr (.inr (.inr (.inr rfl)))) (by omega) (tell_second rfl) _)]
    rfl
  rw [readDateTime, readFields_eq hitems]
  exact Fields.toDateTime_eq (Fields.toDate_withClock moment.date moment.time _)
    (Fields.toTime_withClock moment.date moment.time) rfl

end Iso

end Calendar
end SchemaForm
