import SchemaForm.Proofs.Calendar.Complete
import SchemaForm.Proofs.Result

/-!
# Numbers that leave a date untold

A date that numbers tell agrees with all of them and follows from one complete set.
Numbers that are not complete, or that depend on the century while only two digits
of the year are told, fail for one of three dates.

Main results:

- Theorem `route_of_toDate`: a date that is told comes from one of the complete sets.
- Theorem `exists_toDate_ne_ok`: numbers that do not tell every date fail for one.
- Theorem `toTime_ne_ok`: numbers that do not tell every time tell none.
-/

namespace SchemaForm
namespace Calendar

open Result

namespace Fields

variable {told : List Slot} {moment : DateTime} {fraction : Nat} {date : Date}

/-! ## Years -/

/-- A full year and two digits of the same year tell it unless it is negative, and two digits alone
tell one between 1970 and 2069. -/
theorem resolve_fill {full short : Slot} {year n : Int}
    (h : YearFields.resolve
      { full := Slot.fill told full year, ofCentury := Slot.fill told short (year % 100) } =
        .ok (some n)) :
    (full ∈ told ∧ (short ∈ told → 0 ≤ year) ∧ n = year) ∨
      (full ∉ told ∧ short ∈ told ∧ n = nearYear (year % 100)) := by
  by_cases hfull : full ∈ told
  · refine .inl ⟨hfull, ?_⟩
    by_cases hshort : short ∈ told
    · by_cases hnegative : year < 0
      · simp [YearFields.resolve, Slot.fill_of_mem hfull, Slot.fill_of_mem hshort, hnegative] at h
      · simp [YearFields.resolve, Slot.fill_of_mem hfull, Slot.fill_of_mem hshort, hnegative] at h
        exact ⟨fun _ => by omega, h.symm⟩
    · simp [YearFields.resolve, Slot.fill_of_mem hfull, Slot.fill_of_notMem hshort] at h
      exact ⟨fun hmem => absurd hmem hshort, h.symm⟩
  · by_cases hshort : short ∈ told
    · rw [resolve_ofCentury hfull hshort] at h
      cases h
      exact .inr ⟨hfull, hshort, rfl⟩
    · simp [YearFields.resolve, Slot.fill_of_notMem hfull, Slot.fill_of_notMem hshort] at h

/-! ## Routes to a date -/

/-- The complete sets of numbers from which a date in a year follows, in the order in which they are
tried, and the numbers that the date has to agree with. -/
inductive YearRoute (told : List Slot) (moment : DateTime) (fields : Fields) (year : Int)
    (date : Date) : Prop where
  | month (hmonth : .month ∈ told ∧ .day ∈ told)
      (hdate : Date.of? year moment.date.month moment.date.day = some date)
      (hweek : fields.acceptsIsoWeek date = true) (hordinal : fields.acceptsOrdinal date = true)
  | ordinal (hmonth : ¬(.month ∈ told ∧ .day ∈ told)) (hmem : .ordinal ∈ told)
      (hdate : Date.ofOrdinal? year moment.date.ordinal = some date)
      (hall : fields.acceptsAll date = true)
  | sunday (hmonth : ¬(.month ∈ told ∧ .day ∈ told)) (hordinal : .ordinal ∉ told)
      (hweek : .weekFromSunday ∈ told ∧ .weekday ∈ told)
      (hdate : dateInWeek year (moment.date.weekFrom 6) moment.date.weekday 6 = .ok date)
      (hall : fields.acceptsAll date = true)
  | monday (hmonth : ¬(.month ∈ told ∧ .day ∈ told)) (hordinal : .ordinal ∉ told)
      (hweek : .weekFromMonday ∈ told ∧ .weekday ∈ told)
      (hdate : dateInWeek year (moment.date.weekFrom 0) moment.date.weekday 0 = .ok date)
      (hall : fields.acceptsAll date = true)

/-- An ISO week and a day of the week from which a date in an ISO year follows, and the numbers that
the date has to agree with. -/
structure WeekRoute (told : List Slot) (moment : DateTime) (fields : Fields) (isoYear : Int)
    (date : Date) : Prop where
  isoWeek : .isoWeek ∈ told ∧ .weekday ∈ told
  date_eq : Date.ofIsoWeek? isoYear moment.date.isoWeek.2 moment.date.weekday = some date
  day : fields.acceptsDay date = true
  ordinal : fields.acceptsOrdinal date = true

theorem inRange_eq_ok {found : Option Date} (h : inRange found = .ok date) : found = some date := by
  cases found with
  | none => cases h
  | some found => exact congrArg some (Except.ok.inj h)

/-- A candidate comes from one of the complete sets. -/
theorem route_of_candidate {year isoYear : Option Int}
    (h : (ofSlots told moment fraction).candidate year isoYear = .ok (true, date)) :
    (∃ n, year = some n ∧ YearRoute told moment (ofSlots told moment fraction) n date) ∨
      ∃ n, isoYear = some n ∧ WeekRoute told moment (ofSlots told moment fraction) n date := by
  unfold candidate at h
  split at h
  · rename_i n month day hm hd
    obtain ⟨hmonth, rfl⟩ := Slot.fill_eq_some_iff.mp hm
    obtain ⟨hday, rfl⟩ := Slot.fill_eq_some_iff.mp hd
    obtain ⟨found, hfound, heq⟩ := bind_eq_ok.mp h
    obtain ⟨haccepts, rfl⟩ := Prod.mk.inj (pure_eq_ok.mp heq)
    obtain ⟨hweek, hordinal⟩ := Bool.and_eq_true_iff.mp haccepts
    exact .inl ⟨n, rfl, .month ⟨hmonth, hday⟩ (inRange_eq_ok hfound) hweek hordinal⟩
  · rename_i n ordinal ho hmonthly
    obtain ⟨hordinal, rfl⟩ := Slot.fill_eq_some_iff.mp ho
    obtain ⟨found, hfound, heq⟩ := bind_eq_ok.mp h
    obtain ⟨hall, rfl⟩ := Prod.mk.inj (pure_eq_ok.mp heq)
    have hmonth : ¬(.month ∈ told ∧ .day ∈ told) := fun hmem =>
      hmonthly _ _ (Slot.fill_of_mem hmem.1 _) (Slot.fill_of_mem hmem.2 _)
    exact .inl ⟨n, rfl, .ordinal hmonth hordinal (inRange_eq_ok hfound) hall⟩
  · rename_i n week weekday hw hd hmonthly hdaily
    obtain ⟨hweek, rfl⟩ := Slot.fill_eq_some_iff.mp hw
    obtain ⟨hweekday, rfl⟩ := Slot.fill_eq_some_iff.mp hd
    obtain ⟨found, hfound, heq⟩ := bind_eq_ok.mp h
    obtain ⟨hall, rfl⟩ := Prod.mk.inj (pure_eq_ok.mp heq)
    have hmonth : ¬(.month ∈ told ∧ .day ∈ told) := fun hmem =>
      hmonthly _ _ (Slot.fill_of_mem hmem.1 _) (Slot.fill_of_mem hmem.2 _)
    have hordinal : .ordinal ∉ told := fun hmem => hdaily _ (Slot.fill_of_mem hmem _)
    exact .inl ⟨n, rfl, .sunday hmonth hordinal ⟨hweek, hweekday⟩ hfound hall⟩
  · rename_i n week weekday hw hd hmonthly hdaily _
    obtain ⟨hweek, rfl⟩ := Slot.fill_eq_some_iff.mp hw
    obtain ⟨hweekday, rfl⟩ := Slot.fill_eq_some_iff.mp hd
    obtain ⟨found, hfound, heq⟩ := bind_eq_ok.mp h
    obtain ⟨hall, rfl⟩ := Prod.mk.inj (pure_eq_ok.mp heq)
    have hmonth : ¬(.month ∈ told ∧ .day ∈ told) := fun hmem =>
      hmonthly _ _ (Slot.fill_of_mem hmem.1 _) (Slot.fill_of_mem hmem.2 _)
    have hordinal : .ordinal ∉ told := fun hmem => hdaily _ (Slot.fill_of_mem hmem _)
    exact .inl ⟨n, rfl, .monday hmonth hordinal ⟨hweek, hweekday⟩ hfound hall⟩
  · rename_i weekday n week hd hw _ _ _ _
    obtain ⟨hweek, rfl⟩ := Slot.fill_eq_some_iff.mp hw
    obtain ⟨hweekday, rfl⟩ := Slot.fill_eq_some_iff.mp hd
    obtain ⟨found, hfound, heq⟩ := bind_eq_ok.mp h
    obtain ⟨haccepts, rfl⟩ := Prod.mk.inj (pure_eq_ok.mp heq)
    obtain ⟨hday, hordinal⟩ := Bool.and_eq_true_iff.mp haccepts
    exact .inr ⟨n, rfl, ⟨hweek, hweekday⟩, inRange_eq_ok hfound, hday, hordinal⟩
  · cases h

/-- A date that numbers tell comes from one of the complete sets, in the year or the ISO year that
was told in full or by two digits. -/
theorem route_of_toDate (h : (ofSlots told moment fraction).toDate = .ok date) :
    ((∃ n, ((.year ∈ told ∧ (.yearOfCentury ∈ told → 0 ≤ moment.date.year) ∧
            n = moment.date.year) ∨
          (.year ∉ told ∧ .yearOfCentury ∈ told ∧ n = nearYear (moment.date.year % 100))) ∧
        YearRoute told moment (ofSlots told moment fraction) n date) ∨
      ∃ n, ((.isoYear ∈ told ∧ (.isoYearOfCentury ∈ told → 0 ≤ moment.date.isoWeek.1) ∧
            n = moment.date.isoWeek.1) ∨
          (.isoYear ∉ told ∧ .isoYearOfCentury ∈ told ∧
            n = nearYear (moment.date.isoWeek.1 % 100))) ∧
        WeekRoute told moment (ofSlots told moment fraction) n date) ∧
      (.quarter ∈ told → date.quarter = moment.date.quarter) := by
  obtain ⟨year, hyear, h⟩ := bind_eq_ok.mp h
  obtain ⟨isoYear, hisoYear, h⟩ := bind_eq_ok.mp h
  obtain ⟨⟨agrees, found⟩, hcandidate, h⟩ := bind_eq_ok.mp h
  dsimp only at h
  split at h
  · rename_i haccepts
    cases h
    obtain ⟨rfl, hquarter⟩ := Bool.and_eq_true_iff.mp haccepts
    have hagrees := Slot.getD_fill_eq_iff.mp (beq_iff_eq.mp hquarter)
    refine ⟨?_, fun hmem => Int.ofNat_inj.mp (hagrees hmem)⟩
    rcases route_of_candidate hcandidate with ⟨n, rfl, hroute⟩ | ⟨n, rfl, hroute⟩
    · exact .inl ⟨n, resolve_fill hyear, hroute⟩
    · exact .inr ⟨n, resolve_fill hisoYear, hroute⟩
  · cases h

namespace YearRoute

/-- In its own year a date follows from each complete set. -/
theorem eq_self {fields : Fields} (h : YearRoute told moment fields moment.date.year date) :
    date = moment.date := by
  cases h with
  | month _ hdate => exact (Option.some.inj ((Date.of?_self _).symm.trans hdate)).symm
  | ordinal _ _ hdate => exact (Option.some.inj ((Date.ofOrdinal?_ordinal _).symm.trans hdate)).symm
  | sunday _ _ _ hdate =>
      exact (Except.ok.inj ((Date.dateInWeek_weekFrom (by decide) _).symm.trans hdate)).symm
  | monday _ _ _ hdate =>
      exact (Except.ok.inj ((Date.dateInWeek_weekFrom (by decide) _).symm.trans hdate)).symm

/-- All routes to a date in a year agree with the ISO week that was told. -/
theorem acceptsIsoWeek {fields : Fields} {year : Int}
    (h : YearRoute told moment fields year date) : fields.acceptsIsoWeek date = true := by
  cases h with
  | month _ _ hweek => exact hweek
  | ordinal _ _ _ hall => exact (Bool.and_eq_true_iff.mp (Bool.and_eq_true_iff.mp hall).1).2
  | sunday _ _ _ _ hall => exact (Bool.and_eq_true_iff.mp (Bool.and_eq_true_iff.mp hall).1).2
  | monday _ _ _ _ hall => exact (Bool.and_eq_true_iff.mp (Bool.and_eq_true_iff.mp hall).1).2

/-- All routes to a date in a year agree with the day of the year and the weeks that were told. -/
theorem acceptsOrdinal {fields : Fields} {year : Int}
    (h : YearRoute told moment fields year date) : fields.acceptsOrdinal date = true := by
  cases h with
  | month _ _ _ hordinal => exact hordinal
  | ordinal _ _ _ hall => exact (Bool.and_eq_true_iff.mp hall).2
  | sunday _ _ _ _ hall => exact (Bool.and_eq_true_iff.mp hall).2
  | monday _ _ _ _ hall => exact (Bool.and_eq_true_iff.mp hall).2

end YearRoute

/-! ## Dates that are not told -/

/-- A day in a negative year with 53 ISO weeks.  The year between 1970 and 2069 with the same two
digits, 2003, has 52, and its last two days do not lie in its last week from Sunday or Monday. -/
def longYearEnd : Date :=
  ⟨-497, 12, 31, by decide, by decide, by decide⟩

/-- A day of 1900 that has another week, ISO week, ISO year and day of the week in 2000. -/
def centuryStart : Date :=
  ⟨1900, 1, 2, by decide, by decide, by decide⟩

/-- A day of 1900 that has another day of the year in 2000, a leap year, and whose day of the year
is in another month and quarter there. -/
def centurySpring : Date :=
  ⟨1900, 4, 1, by decide, by decide, by decide⟩

variable {fields : Fields}

/-- In 2003 only month and day or the day of the year make the end of the long year a date. -/
theorem date_of_longYearEnd (hmoment : moment.date = longYearEnd)
    (h : YearRoute told moment fields 2003 date) :
    ((.month ∈ told ∧ .day ∈ told) ∨ .ordinal ∈ told) ∧ date.isoWeek.1 = 2004 := by
  cases h with
  | month hmonth hdate =>
      have hyear : ∀ found ∈ Date.of? 2003 longYearEnd.month longYearEnd.day,
          found.isoWeek.1 = 2004 := by
        decide
      rw [hmoment] at hdate
      exact ⟨.inl hmonth, hyear date hdate⟩
  | ordinal _ hmem hdate =>
      have hyear : ∀ found ∈ Date.ofOrdinal? 2003 longYearEnd.ordinal,
          found.isoWeek.1 = 2004 := by
        decide
      rw [hmoment] at hdate
      exact ⟨.inr hmem, hyear date hdate⟩
  | sunday _ _ _ hdate =>
      have hnone : Rule.succeeded
          (dateInWeek 2003 (longYearEnd.weekFrom 6) longYearEnd.weekday 6) = false := by
        decide
      rw [hmoment] at hdate
      rw [hdate] at hnone
      cases hnone
  | monday _ _ _ hdate =>
      have hnone : Rule.succeeded
          (dateInWeek 2003 (longYearEnd.weekFrom 0) longYearEnd.weekday 0) = false := by
        decide
      rw [hmoment] at hdate
      rw [hdate] at hnone
      cases hnone

/-- Two digits of an ISO year leave the end of the long year untold. -/
theorem toDate_ne_ok_of_isoYearOfCentury (hmoment : moment.date = longYearEnd)
    (hiso : .isoYearOfCentury ∈ told) : (ofSlots told moment fraction).toDate ≠ .ok date := by
  intro h
  rcases (route_of_toDate h).1 with ⟨n, hyear, hroute⟩ | ⟨n, hyear, hroute⟩
  · have hagrees := (acceptsIsoWeek_iff.mp hroute.acceptsIsoWeek).1.2 hiso
    rcases hyear with ⟨-, -, rfl⟩ | ⟨-, -, rfl⟩
    · rw [hroute.eq_self, hmoment] at hagrees
      exact absurd hagrees.1 (by decide)
    · rw [hmoment] at hroute hagrees
      rw [(date_of_longYearEnd hmoment hroute).2] at hagrees
      exact absurd hagrees.2 (by decide)
  · rw [hmoment] at hyear
    rcases hyear with ⟨-, hpos, -⟩ | ⟨-, -, rfl⟩
    · exact absurd (hpos hiso) (by decide)
    · have hnone : Date.ofIsoWeek? (nearYear (longYearEnd.isoWeek.1 % 100)) longYearEnd.isoWeek.2
          longYearEnd.weekday = none := by
        decide
      have hsome := hroute.date_eq
      rw [hmoment, hnone] at hsome
      cases hsome

/-- Two digits of a year beside the year or an ISO year leave the end of the long year untold. -/
theorem toDate_ne_ok_of_year (hmoment : moment.date = longYearEnd) (hshort : .yearOfCentury ∈ told)
    (hfull : .year ∈ told ∨ .isoYear ∈ told) (hiso : .isoYearOfCentury ∉ told) :
    (ofSlots told moment fraction).toDate ≠ .ok date := by
  intro h
  rcases (route_of_toDate h).1 with ⟨n, hyear, hroute⟩ | ⟨n, hyear, hroute⟩
  · rw [hmoment] at hyear
    rcases hyear with ⟨-, hpos, -⟩ | ⟨hmissing, -, rfl⟩
    · exact absurd (hpos hshort) (by decide)
    · have hagrees := (acceptsIsoWeek_iff.mp hroute.acceptsIsoWeek).1.1
        (hfull.resolve_left hmissing)
      rw [(date_of_longYearEnd hmoment hroute).2, hmoment] at hagrees
      exact absurd hagrees (by decide)
  · rcases hyear with ⟨-, -, rfl⟩ | ⟨-, hmem, -⟩
    · have hself : date = moment.date :=
        (Option.some.inj ((Date.ofIsoWeek?_isoWeek _).symm.trans hroute.date_eq)).symm
      have hagrees := (acceptsDay_iff.mp hroute.day).1.2 hshort
      rw [hself, hmoment] at hagrees
      exact absurd hagrees.1 (by decide)
    · exact hiso hmem

/-- Without a year or ISO year, two digits of a year lead to a date in that year. -/
theorem yearRoute_of_toDate (hyear : .year ∉ told) (hisoYear : .isoYear ∉ told)
    (hiso : .isoYearOfCentury ∉ told)
    (h : (ofSlots told moment fraction).toDate = .ok date) :
    YearRoute told moment (ofSlots told moment fraction) (nearYear (moment.date.year % 100)) date ∧
      (.quarter ∈ told → date.quarter = moment.date.quarter) := by
  obtain ⟨hroute, hquarter⟩ := route_of_toDate h
  refine ⟨?_, hquarter⟩
  rcases hroute with ⟨n, hn, hroute⟩ | ⟨n, hn, -⟩
  · rcases hn with ⟨hmem, -, -⟩ | ⟨-, -, rfl⟩
    · exact absurd hmem hyear
    · exact hroute
  · rcases hn with ⟨hmem, -, -⟩ | ⟨-, hmem, -⟩
    · exact absurd hmem hisoYear
    · exact absurd hmem hiso

/-- With two digits of a year, weeks and the day of the week are not told of the start of the
century. -/
theorem toDate_ne_ok_of_week (hmoment : moment.date = centuryStart) (hyear : .year ∉ told)
    (hisoYear : .isoYear ∉ told) (hiso : .isoYearOfCentury ∉ told)
    (hday : (.month ∈ told ∧ .day ∈ told) ∨ .ordinal ∈ told)
    (hweek : .weekFromSunday ∈ told ∨ .weekFromMonday ∈ told ∨ .isoWeek ∈ told ∨ .weekday ∈ told) :
    (ofSlots told moment fraction).toDate ≠ .ok date := by
  intro h
  obtain ⟨hroute, -⟩ := yearRoute_of_toDate hyear hisoYear hiso h
  have hdate : date.weekFrom 6 = 1 ∧ date.weekFrom 0 = 0 ∧ date.isoWeek.2 = 52 ∧
      date.weekday = 6 := by
    cases hroute with
    | month _ hdate =>
        have hweeks : ∀ found ∈ Date.of? (nearYear (centuryStart.year % 100)) centuryStart.month
            centuryStart.day, found.weekFrom 6 = 1 ∧ found.weekFrom 0 = 0 ∧
              found.isoWeek.2 = 52 ∧ found.weekday = 6 := by
          decide
        rw [hmoment] at hdate
        exact hweeks date hdate
    | ordinal _ _ hdate =>
        have hweeks : ∀ found ∈ Date.ofOrdinal? (nearYear (centuryStart.year % 100))
            centuryStart.ordinal, found.weekFrom 6 = 1 ∧ found.weekFrom 0 = 0 ∧
              found.isoWeek.2 = 52 ∧ found.weekday = 6 := by
          decide
        rw [hmoment] at hdate
        exact hweeks date hdate
    | sunday hmonth hordinal => exact absurd hday (not_or.mpr ⟨hmonth, hordinal⟩)
    | monday hmonth hordinal => exact absurd hday (not_or.mpr ⟨hmonth, hordinal⟩)
  have hisoAgrees := acceptsIsoWeek_iff.mp hroute.acceptsIsoWeek
  have hordinalAgrees := acceptsOrdinal_iff.mp hroute.acceptsOrdinal
  rw [hdate.2.2.1, hdate.2.2.2, hmoment] at hisoAgrees
  rw [hdate.1, hdate.2.1, hmoment] at hordinalAgrees
  rcases hweek with hmem | hmem | hmem | hmem
  · exact absurd (hordinalAgrees.2.1 hmem) (by decide)
  · exact absurd (hordinalAgrees.2.2 hmem) (by decide)
  · exact absurd (hisoAgrees.2.1 hmem) (by decide)
  · exact absurd (hisoAgrees.2.2 hmem) (by decide)

/-- With two digits of a year, the day of the year beside the month, the day or the quarter is not
told of the spring of the century. -/
theorem toDate_ne_ok_of_ordinal (hmoment : moment.date = centurySpring) (hyear : .year ∉ told)
    (hisoYear : .isoYear ∉ told) (hiso : .isoYearOfCentury ∉ told) (hordinal : .ordinal ∈ told)
    (hother : .month ∈ told ∨ .day ∈ told ∨ .quarter ∈ told) :
    (ofSlots told moment fraction).toDate ≠ .ok date := by
  intro h
  obtain ⟨hroute, hquarter⟩ := yearRoute_of_toDate hyear hisoYear hiso h
  cases hroute with
  | month _ hdate _ hagrees =>
      have hlater : ∀ found ∈ Date.of? (nearYear (centurySpring.year % 100)) centurySpring.month
          centurySpring.day, found.ordinal = 92 := by
        decide
      have hsame := (acceptsOrdinal_iff.mp hagrees).1 hordinal
      rw [hmoment] at hdate hsame
      rw [hlater date hdate] at hsame
      exact absurd hsame (by decide)
  | ordinal _ _ hdate hall =>
      have hearlier : ∀ found ∈ Date.ofOrdinal? (nearYear (centurySpring.year % 100))
          centurySpring.ordinal, found.month = 3 ∧ found.day = 31 ∧ found.quarter = 1 := by
        decide
      rw [hmoment] at hdate hquarter
      obtain ⟨hmonth, hday, hfirst⟩ := hearlier date hdate
      have hagrees := acceptsDay_iff.mp (Bool.and_eq_true_iff.mp (Bool.and_eq_true_iff.mp hall).1).1
      rw [hmonth, hday, hmoment] at hagrees
      rw [hfirst] at hquarter
      rcases hother with hmem | hmem | hmem
      · exact absurd (hagrees.2.1 hmem) (by decide)
      · exact absurd (hagrees.2.2 hmem) (by decide)
      · exact absurd (hquarter hmem) (by decide)
  | sunday _ hmissing => exact hmissing hordinal
  | monday _ hmissing => exact hmissing hordinal

/-- Numbers that are not complete tell no date. -/
theorem determineDate_of_toDate (hshort : .yearOfCentury ∉ told) (hiso : .isoYearOfCentury ∉ told)
    (h : (ofSlots told moment fraction).toDate = .ok date) : Slot.determineDate told = true := by
  simp only [Slot.determineDate, List.any_cons, List.all_cons, List.any_nil, List.all_nil,
    Bool.or_eq_true, Bool.and_eq_true, List.contains_iff_mem, and_true, or_false,
    Bool.false_eq_true]
  rcases (route_of_toDate h).1 with ⟨n, hn, hroute⟩ | ⟨n, hn, hroute⟩
  · obtain ⟨hyear, -⟩ := hn.resolve_right fun hn => hshort hn.2.1
    cases hroute with
    | month hmonth => exact .inl ⟨hyear, hmonth.1, hmonth.2⟩
    | ordinal _ hmem => exact .inr (.inl ⟨hyear, hmem⟩)
    | sunday _ _ hweek => exact .inr (.inr (.inl ⟨hyear, hweek.1, hweek.2⟩))
    | monday _ _ hweek => exact .inr (.inr (.inr (.inl ⟨hyear, hweek.1, hweek.2⟩)))
  · obtain ⟨hyear, -⟩ := hn.resolve_right fun hn => hiso hn.2.1
    exact .inr (.inr (.inr (.inr ⟨hyear, hroute.isoWeek.1, hroute.isoWeek.2⟩)))

/-- With two digits of a year, weeks alone leave the end of the long year untold. -/
theorem toDate_ne_ok_of_missing (hmoment : moment.date = longYearEnd) (hyear : .year ∉ told)
    (hisoYear : .isoYear ∉ told) (hiso : .isoYearOfCentury ∉ told)
    (hday : ¬((.month ∈ told ∧ .day ∈ told) ∨ .ordinal ∈ told)) :
    (ofSlots told moment fraction).toDate ≠ .ok date := by
  intro h
  obtain ⟨hroute, -⟩ := yearRoute_of_toDate hyear hisoYear hiso h
  rw [hmoment] at hroute
  exact hday (date_of_longYearEnd hmoment hroute).1

/-- Numbers that do not tell every date fail for one. -/
theorem exists_toDate_ne_ok (h : Slot.tellDate told = false) :
    ∃ day : Date, ∀ (moment : DateTime) (fraction : Nat) (date : Date), moment.date = day →
      (ofSlots told moment fraction).toDate ≠ .ok date := by
  by_cases hiso : .isoYearOfCentury ∈ told
  · exact ⟨longYearEnd, fun _ _ _ hmoment => toDate_ne_ok_of_isoYearOfCentury hmoment hiso⟩
  by_cases hshort : .yearOfCentury ∈ told
  · by_cases hfull : .year ∈ told ∨ .isoYear ∈ told
    · exact ⟨longYearEnd, fun _ _ _ hmoment => toDate_ne_ok_of_year hmoment hshort hfull hiso⟩
    obtain ⟨hyear, hisoYear⟩ := not_or.mp hfull
    by_cases hday : (.month ∈ told ∧ .day ∈ told) ∨ .ordinal ∈ told
    · by_cases hweek : .weekFromSunday ∈ told ∨ .weekFromMonday ∈ told ∨ .isoWeek ∈ told ∨
          .weekday ∈ told
      · exact ⟨centuryStart, fun _ _ _ hmoment =>
          toDate_ne_ok_of_week hmoment hyear hisoYear hiso hday hweek⟩
      · by_cases hordinal : .ordinal ∈ told ∧ (.month ∈ told ∨ .day ∈ told ∨ .quarter ∈ told)
        · exact ⟨centurySpring, fun _ _ _ hmoment =>
            toDate_ne_ok_of_ordinal hmoment hyear hisoYear hiso hordinal.1 hordinal.2⟩
        · -- Nothing depends on the century, so that the numbers tell every date.
          simp only [not_or] at hweek
          simp only [Slot.tellDate, Slot.determineShortDate, List.contains_eq_mem, hiso, hshort,
            hyear, hisoYear, hweek, List.all_cons, List.all_nil, decide_true, decide_false,
            Bool.not_false, Bool.true_and, Bool.and_true, if_true, Bool.or_eq_false_iff,
            Bool.and_eq_false_iff, Bool.not_eq_false', decide_eq_true_eq,
            decide_eq_false_iff_not] at h
          rcases hday with hmonth | hmem
          · have hmem := h.1.resolve_left (not_or.mpr ⟨not_not_intro hmonth.1,
              not_not_intro hmonth.2⟩)
            exact absurd ⟨hmem, .inl hmonth.1⟩ hordinal
          · have hother := (or_assoc.mp (or_assoc.mp h.2)).resolve_left (not_not_intro hmem)
            exact absurd ⟨hmem, hother⟩ hordinal
    · exact ⟨longYearEnd, fun _ _ _ hmoment =>
        toDate_ne_ok_of_missing hmoment hyear hisoYear hiso hday⟩
  · refine ⟨longYearEnd, fun _ _ _ _ htold => ?_⟩
    have hcomplete := determineDate_of_toDate hshort hiso htold
    simp [Slot.tellDate, hiso, hshort, hcomplete] at h

/-! ## Times that are not told -/

/-- Numbers that do not tell every time tell none. -/
theorem toTime_ne_ok (h : Slot.tellTime told = false) (time : Time) :
    (ofSlots told moment fraction).toTime ≠ .ok time := by
  simp only [Slot.tellTime, List.contains_eq_mem, Bool.and_eq_false_iff, Bool.or_eq_false_iff,
    decide_eq_false_iff_not, Bool.not_eq_false', decide_eq_true_eq] at h
  intro htime
  unfold toTime at htime
  split at htime
  · rename_i half hour minute hh hr hm
    obtain ⟨hhalf, -⟩ := Slot.fill_eq_some_iff.mp hh
    obtain ⟨hhour, -⟩ := Slot.fill_eq_some_iff.mp hr
    obtain ⟨hminute, -⟩ := Slot.fill_eq_some_iff.mp hm
    have hsecond : .second ∉ told ∧ .nanosecond ∈ told := by
      rcases h with ((hmissing | hmissing) | hmissing) | hsecond
      · exact absurd hhalf hmissing
      · exact absurd hhour hmissing
      · exact absurd hminute hmissing
      · exact hsecond
    have hnone : (ofSlots told moment fraction).second = none :=
      Slot.fill_of_notMem hsecond.1 _
    have hsome : (ofSlots told moment fraction).nanosecond = some (fraction : Int) :=
      Slot.fill_of_mem hsecond.2 _
    rw [hnone, hsome] at htime
    cases htime
  · cases htime

end Fields
end Calendar
end SchemaForm
