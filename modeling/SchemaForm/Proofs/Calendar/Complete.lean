import SchemaForm.Proofs.Calendar.Told

/-!
# Complete sets of numbers

A date follows from any complete set of its numbers, and agrees with all the others.
Two digits of a year tell a date as well, though perhaps that of another century, as
long as nothing else that is told depends on the century.

Main results:

- Theorem `acceptsDay_iff`, Theorem `acceptsIsoWeek_iff`, Theorem `acceptsOrdinal_iff`: a date is
  accepted when it agrees with the numbers that were told.
- Theorem `toDate_ofSlots`: a complete set of numbers tells the date.
- Theorem `exists_toDateTime_ofSlots`: complete numbers tell a date and time.
-/

namespace SchemaForm
namespace Calendar

/-! ## Which numbers are complete -/

namespace Slot

/-- Whether the numbers determine a date: those of a day in a year, by month, day of the year, week
or ISO week. -/
def determineDate (told : List Slot) : Bool :=
  [[year, month, day], [year, ordinal], [year, weekFromSunday, weekday],
    [year, weekFromMonday, weekday], [isoYear, isoWeek, weekday]].any fun slots =>
      slots.all fun slot => told.contains slot

/-- Whether the numbers determine a date of the same two digits of the year: month and day do, and
so does the day of the year, as long as nothing else depends on the century. -/
def determineShortDate (told : List Slot) : Bool :=
  [year, isoYear, weekFromSunday, weekFromMonday, isoWeek, weekday].all
      (fun slot => !told.contains slot) &&
    ((told.contains month && told.contains day && !told.contains ordinal) ||
      (told.contains ordinal && !told.contains month && !told.contains day &&
        !told.contains quarter))

/-- Whether the numbers tell a date, whichever date they are the numbers of. -/
def tellDate (told : List Slot) : Bool :=
  !told.contains isoYearOfCentury &&
    if told.contains yearOfCentury then determineShortDate told else determineDate told

/-- Whether the numbers tell a time: a fraction only follows a second. -/
def tellTime (told : List Slot) : Bool :=
  told.contains halfOfDay && told.contains hourOfHalf && told.contains minute &&
    (told.contains second || !told.contains nanosecond)

variable {told others : List Slot}

/-- Whether numbers tell a date does not depend on a fraction. -/
theorem tellDate_congr (h : ∀ slot, slot ≠ nanosecond → (slot ∈ told ↔ slot ∈ others)) :
    tellDate told = tellDate others := by
  simp [tellDate, determineShortDate, determineDate, h]

/-- A fraction that is not told makes no number missing. -/
theorem tellTime_mono (h : ∀ slot, slot ≠ nanosecond → (slot ∈ told ↔ slot ∈ others))
    (hfraction : nanosecond ∈ told → nanosecond ∈ others) (htime : tellTime others = true) :
    tellTime told = true := by
  simp only [tellTime, List.contains_eq_mem, Bool.and_eq_true, Bool.or_eq_true, decide_eq_true_eq,
    Bool.not_eq_true', decide_eq_false_iff_not] at htime ⊢
  rw [h _ (by decide), h _ (by decide), h _ (by decide), h _ (by decide)]
  exact ⟨htime.1, htime.2.imp_right fun hmissing htold => hmissing (hfraction htold)⟩

end Slot

namespace Fields

variable {told : List Slot} {moment : DateTime} {fraction : Nat} {date : Date}

/-! ## Agreement -/

/-- A year agrees with what was told of another: in full, or by two digits unless it is negative. -/
theorem accepts_fill_iff {full short : Slot} {year other : Int} :
    YearFields.accepts
        { full := Slot.fill told full year, ofCentury := Slot.fill told short (year % 100) } other =
          true ↔
      (full ∈ told → other = year) ∧ (short ∈ told → 0 ≤ other ∧ other % 100 = year % 100) := by
  simp only [YearFields.accepts, Bool.and_eq_true, beq_iff_eq, Slot.getD_fill_eq_iff]
  refine and_congr Iff.rfl ?_
  split
  · rename_i hpos
    simp [Slot.getD_fill_eq_iff, hpos]
  · rename_i hnegative
    by_cases h : short ∈ told
    · simp [Slot.fill_of_mem h, h, hnegative]
    · simp [Slot.fill_of_notMem h, h]

/-- A date is accepted when it agrees with year, month and day that were told. -/
theorem acceptsDay_iff :
    (ofSlots told moment fraction).acceptsDay date = true ↔
      ((.year ∈ told → date.year = moment.date.year) ∧
        (.yearOfCentury ∈ told →
          0 ≤ date.year ∧ date.year % 100 = moment.date.year % 100)) ∧
      (.month ∈ told → date.month = moment.date.month) ∧
      (.day ∈ told → date.day = moment.date.day) := by
  simp only [acceptsDay, ofSlots, Bool.and_eq_true, beq_iff_eq, accepts_fill_iff,
    Slot.getD_fill_eq_iff, and_assoc, Int.natCast_inj]

/-- A date is accepted when it agrees with ISO week and day of the week that were told. -/
theorem acceptsIsoWeek_iff :
    (ofSlots told moment fraction).acceptsIsoWeek date = true ↔
      ((.isoYear ∈ told → date.isoWeek.1 = moment.date.isoWeek.1) ∧
        (.isoYearOfCentury ∈ told →
          0 ≤ date.isoWeek.1 ∧ date.isoWeek.1 % 100 = moment.date.isoWeek.1 % 100)) ∧
      (.isoWeek ∈ told → date.isoWeek.2 = moment.date.isoWeek.2) ∧
      (.weekday ∈ told → date.weekday = moment.date.weekday) := by
  simp only [acceptsIsoWeek, ofSlots, Bool.and_eq_true, beq_iff_eq, accepts_fill_iff,
    Slot.getD_fill_eq_iff, and_assoc, Int.natCast_inj]

/-- A date is accepted when it agrees with the day of the year and the weeks that were told. -/
theorem acceptsOrdinal_iff :
    (ofSlots told moment fraction).acceptsOrdinal date = true ↔
      (.ordinal ∈ told → date.ordinal = moment.date.ordinal) ∧
      (.weekFromSunday ∈ told → date.weekFrom 6 = moment.date.weekFrom 6) ∧
      (.weekFromMonday ∈ told → date.weekFrom 0 = moment.date.weekFrom 0) := by
  simp only [acceptsOrdinal, ofSlots, Bool.and_eq_true, beq_iff_eq, Slot.getD_fill_eq_iff,
    and_assoc, Int.natCast_inj]

/-- A date agrees with its own numbers; a negative year must not have been told by two digits. -/
theorem acceptsDay_ofSlots (h : Slot.yearOfCentury ∉ told ∨ 0 ≤ moment.date.year) :
    (ofSlots told moment fraction).acceptsDay moment.date = true :=
  acceptsDay_iff.mpr ⟨⟨fun _ => rfl, fun hmem => ⟨h.resolve_left (not_not_intro hmem), rfl⟩⟩,
    fun _ => rfl, fun _ => rfl⟩

theorem acceptsIsoWeek_ofSlots (h : Slot.isoYearOfCentury ∉ told ∨ 0 ≤ moment.date.isoWeek.1) :
    (ofSlots told moment fraction).acceptsIsoWeek moment.date = true :=
  acceptsIsoWeek_iff.mpr ⟨⟨fun _ => rfl, fun hmem => ⟨h.resolve_left (not_not_intro hmem), rfl⟩⟩,
    fun _ => rfl, fun _ => rfl⟩

theorem acceptsOrdinal_ofSlots :
    (ofSlots told moment fraction).acceptsOrdinal moment.date = true :=
  acceptsOrdinal_iff.mpr ⟨fun _ => rfl, fun _ => rfl, fun _ => rfl⟩

theorem acceptsAll_ofSlots (hyear : Slot.yearOfCentury ∉ told ∨ 0 ≤ moment.date.year)
    (hisoYear : Slot.isoYearOfCentury ∉ told ∨ 0 ≤ moment.date.isoWeek.1) :
    (ofSlots told moment fraction).acceptsAll moment.date = true := by
  rw [acceptsAll, acceptsDay_ofSlots hyear, acceptsIsoWeek_ofSlots hisoYear,
    acceptsOrdinal_ofSlots]
  rfl

/-! ## Dates -/

/-- The candidate of a complete set of numbers is the date, and agrees with the other numbers. -/
theorem candidate_ofSlots (hshort : Slot.yearOfCentury ∉ told)
    (hisoShort : Slot.isoYearOfCentury ∉ told) (h : Slot.determineDate told = true) :
    (ofSlots told moment fraction).candidate (Slot.fill told .year moment.date.year)
        (Slot.fill told .isoYear moment.date.isoWeek.1) = .ok (true, moment.date) := by
  have hday := @acceptsDay_ofSlots told moment fraction (.inl hshort)
  have hweek := @acceptsIsoWeek_ofSlots told moment fraction (.inl hisoShort)
  have hall := @acceptsAll_ofSlots told moment fraction (.inl hshort) (.inl hisoShort)
  unfold candidate
  split
  · rename_i year month day hyear hmonth hnumber
    obtain ⟨-, rfl⟩ := Slot.fill_eq_some_iff.mp hyear
    obtain ⟨-, rfl⟩ := Slot.fill_eq_some_iff.mp hmonth
    obtain ⟨-, rfl⟩ := Slot.fill_eq_some_iff.mp hnumber
    simp [Date.of?_self, inRange, hweek, acceptsOrdinal_ofSlots, bind, Except.bind, pure,
      Except.pure]
  · rename_i year ordinal hyear hordinal _
    obtain ⟨-, rfl⟩ := Slot.fill_eq_some_iff.mp hyear
    obtain ⟨-, rfl⟩ := Slot.fill_eq_some_iff.mp hordinal
    simp [Date.ofOrdinal?_ordinal, inRange, hall, bind, Except.bind, pure, Except.pure]
  · rename_i year week weekday hyear hnumber hweekday _ _
    obtain ⟨-, rfl⟩ := Slot.fill_eq_some_iff.mp hyear
    obtain ⟨-, rfl⟩ := Slot.fill_eq_some_iff.mp hnumber
    obtain ⟨-, rfl⟩ := Slot.fill_eq_some_iff.mp hweekday
    have hback := Date.dateInWeek_weekFrom (show 6 < 7 by decide) moment.date
    simp [hback, hall, bind, Except.bind, pure, Except.pure]
  · rename_i year week weekday hyear hnumber hweekday _ _ _
    obtain ⟨-, rfl⟩ := Slot.fill_eq_some_iff.mp hyear
    obtain ⟨-, rfl⟩ := Slot.fill_eq_some_iff.mp hnumber
    obtain ⟨-, rfl⟩ := Slot.fill_eq_some_iff.mp hweekday
    have hback := Date.dateInWeek_weekFrom (show 0 < 7 by decide) moment.date
    simp [hback, hall, bind, Except.bind, pure, Except.pure]
  · rename_i weekday isoYear isoWeek hweekday hyear hnumber _ _ _ _
    obtain ⟨-, rfl⟩ := Slot.fill_eq_some_iff.mp hyear
    obtain ⟨-, rfl⟩ := Slot.fill_eq_some_iff.mp hnumber
    obtain ⟨-, rfl⟩ := Slot.fill_eq_some_iff.mp hweekday
    simp [Date.ofIsoWeek?_isoWeek, inRange, hday, acceptsOrdinal_ofSlots, bind, Except.bind, pure,
      Except.pure]
  · -- One of the sets is told, so that its case applies.
    rename_i hmonthly hdaily hsunday hmonday hiso
    simp only [Slot.determineDate, List.any_cons, List.all_cons, List.any_nil, List.all_nil,
      Bool.or_eq_true, Bool.and_eq_true, List.contains_iff_mem, and_true, or_false,
      Bool.false_eq_true] at h
    rcases h with ⟨hyear, hmonth, hday⟩ | ⟨hyear, hday⟩ | ⟨hyear, hweek, hweekday⟩ |
      ⟨hyear, hweek, hweekday⟩ | ⟨hyear, hweek, hweekday⟩
    · exact (hmonthly _ _ _ (Slot.fill_of_mem hyear _) (Slot.fill_of_mem hmonth _)
        (Slot.fill_of_mem hday _)).elim
    · exact (hdaily _ _ (Slot.fill_of_mem hyear _) (Slot.fill_of_mem hday _)).elim
    · exact (hsunday _ _ _ (Slot.fill_of_mem hyear _) (Slot.fill_of_mem hweek _)
        (Slot.fill_of_mem hweekday _)).elim
    · exact (hmonday _ _ _ (Slot.fill_of_mem hyear _) (Slot.fill_of_mem hweek _)
        (Slot.fill_of_mem hweekday _)).elim
    · exact (hiso _ _ _ (Slot.fill_of_mem hweekday _) (Slot.fill_of_mem hyear _)
        (Slot.fill_of_mem hweek _)).elim

/-- A complete set of numbers tells the date. -/
theorem toDate_ofSlots (hshort : Slot.yearOfCentury ∉ told)
    (hisoShort : Slot.isoYearOfCentury ∉ told) (h : Slot.determineDate told = true) :
    (ofSlots told moment fraction).toDate = .ok moment.date := by
  have hcandidate := @candidate_ofSlots told moment fraction hshort hisoShort h
  have hyear : (ofSlots told moment fraction).year.resolve =
      .ok (Slot.fill told .year moment.date.year) := by
    simp [ofSlots, YearFields.resolve, Slot.fill_of_notMem hshort]
  have hisoYear : (ofSlots told moment fraction).isoYear.resolve =
      .ok (Slot.fill told .isoYear moment.date.isoWeek.1) := by
    simp [ofSlots, YearFields.resolve, Slot.fill_of_notMem hisoShort]
  have hquarter : (ofSlots told moment fraction).quarter.getD moment.date.quarter =
      moment.date.quarter :=
    Slot.getD_fill told .quarter moment.date.quarter
  simp [toDate, hyear, hisoYear, hcandidate, hquarter, bind, Except.bind, pure, Except.pure]

/-- The year from 1970 to 2069 that ends in two digits. -/
def nearYear (ofCentury : Int) : Int :=
  ofCentury + if ofCentury < 70 then 2000 else 1900

/-- Two digits alone tell a year between 1970 and 2069. -/
theorem resolve_ofCentury {full short : Slot} (hfull : full ∉ told) (hshort : short ∈ told)
    (year : Int) :
    YearFields.resolve
        { full := Slot.fill told full year, ofCentury := Slot.fill told short (year % 100) } =
      .ok (some (nearYear (year % 100))) := by
  simp [YearFields.resolve, Slot.fill_of_notMem hfull, Slot.fill_of_mem hshort, nearYear]

/-- The two digits of a year between 1970 and 2069 tell the year. -/
theorem nearYear_emod {year : Int} (h : 1970 ≤ year ∧ year ≤ 2069) :
    nearYear (year % 100) = year := by
  unfold nearYear
  split <;> omega

/-- Two digits of a year between 1970 and 2069 tell the date with month and day, or with the day of
the year. -/
theorem toDate_ofSlots_short (hyear : Slot.year ∉ told) (hshort : Slot.yearOfCentury ∈ told)
    (hisoYear : Slot.isoYear ∉ told) (hisoShort : Slot.isoYearOfCentury ∉ told)
    (h : (Slot.month ∈ told ∧ Slot.day ∈ told) ∨ (Slot.month ∉ told ∧ Slot.ordinal ∈ told))
    (hrange : 1970 ≤ moment.date.year ∧ moment.date.year ≤ 2069) :
    (ofSlots told moment fraction).toDate = .ok moment.date := by
  have hresolve : (ofSlots told moment fraction).year.resolve = .ok (some moment.date.year) := by
    rw [← nearYear_emod hrange]
    exact resolve_ofCentury hyear hshort _
  have hisoResolve : (ofSlots told moment fraction).isoYear.resolve = .ok none := by
    simp [ofSlots, YearFields.resolve, Slot.fill_of_notMem hisoYear, Slot.fill_of_notMem hisoShort]
  have hpos : 0 ≤ moment.date.year := by omega
  have hweek := @acceptsIsoWeek_ofSlots told moment fraction (.inl hisoShort)
  have hall := @acceptsAll_ofSlots told moment fraction (.inr hpos) (.inl hisoShort)
  have hcandidate : (ofSlots told moment fraction).candidate (some moment.date.year) none =
      .ok (true, moment.date) := by
    rcases h with ⟨hmonth, hday⟩ | ⟨hmonth, hordinal⟩
    · have hmonth : (ofSlots told moment fraction).month = some (moment.date.month : Int) :=
        Slot.fill_of_mem hmonth _
      have hday : (ofSlots told moment fraction).day = some (moment.date.day : Int) :=
        Slot.fill_of_mem hday _
      simp [candidate, hmonth, hday, Date.of?_self, inRange, hweek, acceptsOrdinal_ofSlots, bind,
        Except.bind, pure, Except.pure]
    · have hmonth : (ofSlots told moment fraction).month = none := Slot.fill_of_notMem hmonth _
      have hordinal : (ofSlots told moment fraction).ordinal = some (moment.date.ordinal : Int) :=
        Slot.fill_of_mem hordinal _
      simp [candidate, hmonth, hordinal, Date.ofOrdinal?_ordinal, inRange, hall, bind, Except.bind,
        pure, Except.pure]
  have hquarter : (ofSlots told moment fraction).quarter.getD moment.date.quarter =
      moment.date.quarter :=
    Slot.getD_fill told .quarter moment.date.quarter
  simp [toDate, hresolve, hisoResolve, hcandidate, hquarter, bind, Except.bind, pure, Except.pure]

/-- A month of a leap year has the most days. -/
theorem daysInMonth_le_of_isLeap {first second : Int}
    (h : isLeap first = true → isLeap second = true) (month : Nat) :
    daysInMonth first month ≤ daysInMonth second month := by
  by_cases hmonth : month = 2
  · subst hmonth
    simp only [daysInMonth]
    split
    · rename_i hleap
      exact Nat.le_of_eq (if_pos (h hleap)).symm
    · split <;> omega
  · have hsame : daysInMonth first month = daysInMonth second month := by
      unfold daysInMonth
      split <;> first | rfl | contradiction
    exact Nat.le_of_eq hsame

/-- The year between 1970 and 2069 has a leap day if the year has one. -/
theorem nearYear_spec (year : Int) :
    (1970 ≤ nearYear (year % 100) ∧ nearYear (year % 100) ≤ 2069) ∧
      nearYear (year % 100) % 100 = year % 100 ∧
        (isLeap year = true → isLeap (nearYear (year % 100)) = true) := by
  have hrange : 1970 ≤ nearYear (year % 100) ∧ nearYear (year % 100) ≤ 2069 ∧
      nearYear (year % 100) % 100 = year % 100 := by
    unfold nearYear
    split <;> omega
  refine ⟨⟨hrange.1, hrange.2.1⟩, hrange.2.2, fun hleap => ?_⟩
  simp only [isLeap, Bool.and_eq_true, Bool.or_eq_true, beq_iff_eq, bne_iff_ne] at hleap ⊢
  omega

/-- Every date has one between 1970 and 2069 with the same two digits of the year, month and day. -/
theorem exists_nearDate (date : Date) :
    ∃ near : Date, (1970 ≤ near.year ∧ near.year ≤ 2069) ∧ near.year % 100 = date.year % 100 ∧
      near.month = date.month ∧ near.day = date.day := by
  obtain ⟨hrange, hcentury, hleap⟩ := nearYear_spec date.year
  refine ⟨⟨nearYear (date.year % 100), date.month, date.day, ?_, date.day_pos,
      Nat.le_trans date.day_le (daysInMonth_le_of_isLeap hleap date.month)⟩,
    hrange, hcentury, rfl, rfl⟩
  unfold leastYear greatestYear
  omega

/-- Every date has one between 1970 and 2069 with the same two digits of the year and the same day
of the year. -/
theorem exists_nearOrdinal (date : Date) :
    ∃ near : Date, (1970 ≤ near.year ∧ near.year ≤ 2069) ∧ near.year % 100 = date.year % 100 ∧
      near.ordinal = date.ordinal := by
  obtain ⟨hrange, hcentury, hleap⟩ := nearYear_spec date.year
  have hordinal : date.ordinal ≤ daysInYear (nearYear (date.year % 100)) := by
    refine Nat.le_trans date.ordinal_le ?_
    unfold daysInYear
    split
    · rename_i hlong
      exact Nat.le_of_eq (if_pos (hleap hlong)).symm
    · split <;> omega
  obtain ⟨near, hyear, hday⟩ :=
    Date.exists_ordinal (by unfold leastYear greatestYear; omega) date.ordinal_pos hordinal
  exact ⟨near, hyear ▸ hrange, hyear ▸ hcentury, hday⟩

/-- Complete numbers tell a date. -/
theorem exists_toDate_ofSlots (h : Slot.tellDate told = true) :
    ∃ date, (ofSlots told moment fraction).toDate = .ok date := by
  simp only [Slot.tellDate, Bool.and_eq_true, Bool.not_eq_true', List.contains_eq_mem,
    decide_eq_false_iff_not] at h
  obtain ⟨hisoShort, h⟩ := h
  split at h
  · rename_i hshort
    simp only [Slot.determineShortDate, List.all_cons, List.all_nil, Bool.and_eq_true,
      Bool.or_eq_true, List.contains_eq_mem, decide_eq_true_eq, Bool.not_eq_true', Bool.and_true,
      decide_eq_false_iff_not] at h hshort
    obtain ⟨⟨hyear, hisoYear, hsunday, hmonday, hisoWeek, hweekday⟩,
      ⟨⟨hmonth, hday⟩, hordinal⟩ | ⟨⟨⟨hordinal, hmonth⟩, hday⟩, hquarter⟩⟩ := h
    · obtain ⟨near, hrange, hcentury, hsameMonth, hsameDay⟩ := exists_nearDate moment.date
      have hsame : ofSlots told moment fraction = ofSlots told ⟨near, moment.time⟩ fraction := by
        simp [ofSlots, Slot.fill_of_notMem, hyear, hisoYear, hisoShort, hsunday, hmonday, hisoWeek,
          hweekday, hordinal, hcentury, hsameMonth, hsameDay, Date.quarter]
      rw [hsame]
      exact ⟨near, toDate_ofSlots_short hyear hshort hisoYear hisoShort (.inl ⟨hmonth, hday⟩)
        hrange⟩
    · obtain ⟨near, hrange, hcentury, hsameOrdinal⟩ := exists_nearOrdinal moment.date
      have hsame : ofSlots told moment fraction = ofSlots told ⟨near, moment.time⟩ fraction := by
        simp [ofSlots, Slot.fill_of_notMem, hyear, hisoYear, hisoShort, hsunday, hmonday, hisoWeek,
          hweekday, hmonth, hday, hquarter, hcentury, hsameOrdinal]
      rw [hsame]
      exact ⟨near, toDate_ofSlots_short hyear hshort hisoYear hisoShort (.inr ⟨hmonth, hordinal⟩)
        hrange⟩
  · rename_i hshort
    rw [decide_eq_true_eq] at hshort
    exact ⟨moment.date, toDate_ofSlots hshort hisoShort h⟩

/-! ## Times -/

/-- Hour, minute, written second and a fraction make a time; a leap second is written as 60. -/
theorem exists_time_of_written (time : Time) {written nanosecond : Nat} (hwritten : written ≤ 60)
    (hnanosecond : nanosecond ≤ 999999999) :
    ∃ result, Time.of? ((time.hour : Int) / 12 * 12 + (time.hour : Int) % 12).toNat
      (time.minute : Int).toNat (if written = 60 then 59 else written)
        ((if written = 60 then 1000000000 else 0) + nanosecond) = some result := by
  have hhour := time.hour_lt
  have hminute := time.minute_lt
  rw [hour_of_halves, Int.toNat_natCast]
  refine ⟨_, dif_pos ⟨hhour, hminute, ?_, ?_, ?_⟩⟩ <;> split <;> omega

/-- Complete numbers tell a time. -/
theorem exists_toTime_ofSlots (h : Slot.tellTime told = true) (hfraction : fraction ≤ 999999999) :
    ∃ time, (ofSlots told moment fraction).toTime = .ok time := by
  simp only [Slot.tellTime, Bool.and_eq_true, Bool.or_eq_true, List.contains_eq_mem,
    decide_eq_true_eq, Bool.not_eq_true', decide_eq_false_iff_not] at h
  obtain ⟨⟨⟨hhalf, hhour⟩, hminute⟩, hsecond⟩ := h
  have hwritten := moment.time.writtenSecond_le
  have hnanosecond : ((Slot.fill told .nanosecond fraction).getD 0).toNat ≤ 999999999 := by
    unfold Slot.fill
    split
    · simpa using hfraction
    · simp
  simp only [toTime, ofSlots, Slot.fill_of_mem hhalf, Slot.fill_of_mem hhour,
    Slot.fill_of_mem hminute]
  by_cases htold : Slot.second ∈ told
  · obtain ⟨time, htime⟩ := exists_time_of_written moment.time hwritten hnanosecond
    simp only [Slot.fill_of_mem htold, Option.getD_some, Int.toNat_natCast] at htime ⊢
    rw [htime]
    exact ⟨time, rfl⟩
  · have hnone := hsecond.resolve_left htold
    obtain ⟨time, htime⟩ := exists_time_of_written moment.time (Nat.zero_le 60)
      (Nat.zero_le 999999999)
    simp only [Slot.fill_of_notMem htold, Slot.fill_of_notMem hnone, Option.getD_none,
      Int.toNat_zero] at htime ⊢
    rw [htime]
    exact ⟨time, rfl⟩

/-- Complete numbers tell a date and time. -/
theorem exists_toDateTime_ofSlots (hdate : Slot.tellDate told = true)
    (htime : Slot.tellTime told = true) (hfraction : fraction ≤ 999999999) :
    ∃ result, (ofSlots told moment fraction).toDateTime = .ok result := by
  obtain ⟨date, hdate⟩ := @exists_toDate_ofSlots told moment fraction hdate
  obtain ⟨time, htime⟩ := @exists_toTime_ofSlots told moment fraction htime hfraction
  exact ⟨_, toDateTime_eq hdate htime rfl⟩

end Fields
end Calendar
end SchemaForm