import SchemaForm.Proofs.Calendar.Written

/-!
# Dates from days and weeks of the year

Beside year, month and day, a date is determined by its year and the day of the
year, by its year, a week that is counted from a weekday and the day of the week,
and by its ISO year, ISO week and the day of the week.

Main results:

- Theorem `ofOrdinal?_ordinal`: the day of the year gives the date back.
- Theorem `dateInWeek_weekFrom`: a week that starts on Sunday or Monday gives the date back.
- Theorem `ofIsoWeek?_isoWeek`: the ISO week gives the date back.
-/

namespace SchemaForm
namespace Calendar

/-! ## Days of the year -/

/-- The months of a year have all of its days. -/
theorem daysBefore_thirteen (year : Int) : daysBefore year 13 = daysInYear year := by
  simp only [daysBefore, daysInMonth, daysInYear]
  cases isLeap year <;> rfl

/-- No month starts after a later one. -/
theorem daysBefore_mono (year : Int) {first second : Nat} (h : first ≤ second) :
    daysBefore year first ≤ daysBefore year second := by
  induction second with
  | zero => exact Nat.le_of_eq (congrArg (daysBefore year) (Nat.le_zero.mp h))
  | succ second ih =>
      rcases Nat.eq_or_lt_of_le h with rfl | hearlier
      · exact Nat.le_refl _
      · exact Nat.le_trans (ih (by omega)) (Nat.le_add_right _ _)

/-- A year has at most 366 days. -/
theorem daysInYear_le (year : Int) : 365 ≤ daysInYear year ∧ daysInYear year ≤ 366 := by
  unfold daysInYear
  split <;> omega

/-- The day is found in its month when the months before it are taken off. -/
theorem findMonth_eq {year : Int} {steps start month day : Nat} (hstart : start ≤ month)
    (hsteps : month ≤ start + steps) (hpos : 1 ≤ day) (hday : day ≤ daysInMonth year month) :
    Date.findMonth year steps start (daysBefore year month - daysBefore year start + day) =
      (month, day) := by
  induction steps generalizing start with
  | zero =>
      have hmonth : start = month := by omega
      subst hmonth
      simp [Date.findMonth]
  | succ steps ih =>
      rcases Nat.eq_or_lt_of_le hstart with rfl | hlater
      · simp [Date.findMonth, hday]
      · have hnext := daysBefore_mono year (show start + 1 ≤ month by omega)
        have hbefore : daysBefore year (start + 1) =
            daysBefore year start + daysInMonth year start := rfl
        have hlong : ¬ daysBefore year month - daysBefore year start + day ≤
            daysInMonth year start := by
          omega
        have hrest : daysBefore year month - daysBefore year start + day -
            daysInMonth year start = daysBefore year month - daysBefore year (start + 1) + day := by
          omega
        rw [Date.findMonth, if_neg hlong, hrest]
        exact ih (by omega) (by omega)

namespace Date

/-- The day of the year is no greater than the number of its days. -/
theorem ordinal_le (date : Date) : date.ordinal ≤ daysInYear date.year := by
  have hday := date.day_le
  have hmonth := date.month_le
  have hmono := daysBefore_mono date.year (show date.month + 1 ≤ 13 by omega)
  rw [daysBefore_thirteen] at hmono
  have hnext : daysBefore date.year (date.month + 1) =
      daysBefore date.year date.month + daysInMonth date.year date.month := rfl
  unfold ordinal
  omega

/-- The day of the year gives the date back. -/
theorem ofOrdinal?_ordinal (date : Date) : ofOrdinal? date.year date.ordinal = some date := by
  have hmonth := date.month_le
  have hbefore : daysBefore date.year 1 = 0 := rfl
  have hsteps : date.month ≤ 1 + 12 := by omega
  have hfound := findMonth_eq hmonth.1 hsteps date.day_pos date.day_le
  rw [hbefore, Nat.sub_zero] at hfound
  rw [ofOrdinal?, if_pos ⟨date.ordinal_pos, date.ordinal_le⟩]
  simp only [ordinal, hfound, of?_self]

/-- Months and days are found for every day of a year. -/
theorem findMonth_spec {year : Int} {steps start n : Nat} (hstart : 1 ≤ start)
    (hsteps : start + steps = 13) (hpos : 1 ≤ n)
    (hle : daysBefore year start + n ≤ daysInYear year) :
    1 ≤ (findMonth year steps start n).2 ∧
      (findMonth year steps start n).2 ≤ daysInMonth year (findMonth year steps start n).1 ∧
        daysBefore year (findMonth year steps start n).1 + (findMonth year steps start n).2 =
          daysBefore year start + n := by
  induction steps generalizing start n with
  | zero =>
      have hthirteen : start = 13 := by omega
      subst hthirteen
      rw [daysBefore_thirteen] at hle
      omega
  | succ steps ih =>
      have hnext : daysBefore year (start + 1) = daysBefore year start + daysInMonth year start :=
        rfl
      by_cases hday : n ≤ daysInMonth year start
      · rw [findMonth, if_pos hday]
        exact ⟨hpos, hday, rfl⟩
      · rw [findMonth, if_neg hday]
        obtain ⟨hfirst, hlast, hsum⟩ :=
          @ih (start + 1) (n - daysInMonth year start) (by omega) (by omega) (by omega) (by omega)
        exact ⟨hfirst, hlast, by omega⟩

/-- Every day of a year makes a date. -/
theorem exists_ordinal {year : Int} {n : Nat} (hyear : leastYear ≤ year ∧ year ≤ greatestYear)
    (hpos : 1 ≤ n) (hle : n ≤ daysInYear year) :
    ∃ date : Date, date.year = year ∧ date.ordinal = n := by
  have hbefore : daysBefore year 1 + n = n := Nat.zero_add n
  obtain ⟨hfirst, hlast, hsum⟩ :=
    @findMonth_spec year 12 1 n (Nat.le_refl 1) rfl hpos (hbefore.symm ▸ hle)
  exact ⟨⟨year, _, _, hyear, hfirst, hlast⟩, rfl, hsum.trans hbefore⟩

/-! ## Days of the week -/

/-- A day of the week is one of seven. -/
theorem weekday_lt (date : Date) : date.weekday < 7 := by
  unfold weekday weekdayOf
  omega

/-- A year starts after the last day of the year before. -/
theorem dayNumber_succ (year n : Int) :
    dayNumber (year + 1) n = dayNumber year (n + daysInYear year) := by
  have hleap : (daysInYear year : Int) =
      365 + year / 4 - (year - 1) / 4 - year / 100 + (year - 1) / 100 + year / 400 -
        (year - 1) / 400 := by
    unfold daysInYear isLeap
    split <;> rename_i h <;> simp at h <;> omega
  simp only [dayNumber]
  omega

/-- The first day of a year. -/
theorem exists_newYear (date : Date) :
    ∃ newYear, ofOrdinal? date.year 1 = some newYear ∧
      newYear.weekday = weekdayOf date.year 1 := by
  have hfirst := ofOrdinal?_ordinal
    ⟨date.year, 1, 1, date.year_le, Nat.le_refl 1, show 1 ≤ 31 by omega⟩
  exact ⟨_, hfirst, rfl⟩

/-! ## Weeks of the year -/

/-- There are at most 53 weeks that start on the same day of the week. -/
theorem weekFrom_le (first : Nat) (date : Date) : date.weekFrom first ≤ 53 := by
  have hordinal := date.ordinal_le
  have hyear := daysInYear_le date.year
  unfold weekFrom
  omega

/-- A week that starts on a given day of the week, and the day of the week, give the date back. -/
theorem dateInWeek_weekFrom {first : Nat} (hfirst : first < 7) (date : Date) :
    Fields.dateInWeek date.year (date.weekFrom first) date.weekday first = .ok date := by
  obtain ⟨newYear, hnewYear, hweekday⟩ := exists_newYear date
  have hpos := date.ordinal_pos
  have hordinal : 1 + ((first : Int) + 7 - newYear.weekday) % 7 +
      ((date.weekFrom first : Int) - 1) * 7 + ((date.weekday : Int) + 7 - first) % 7 =
        date.ordinal := by
    rw [hweekday]
    simp only [weekFrom, weekday, weekdayOf, dayNumber]
    omega
  rw [Fields.dateInWeek, hnewYear]
  simp only [hordinal]
  rw [if_neg (by omega), Int.toNat_natCast, ofOrdinal?_ordinal]

/-! ## ISO weeks -/

/-- The week of a Thursday in a year is one of the ISO weeks of the year, and the days of that week
are counted from the Thursday. -/
theorem isoOrdinal_thursday {year thursday : Int} (hpos : 1 ≤ thursday)
    (hle : thursday ≤ daysInYear year) (hthursday : (dayNumber year thursday - 1) % 7 = 3)
    (weekday : Nat) :
    ((thursday - 1) / 7 + 1).toNat ≠ 0 ∧
      ((thursday - 1) / 7 + 1).toNat ≤ isoWeeks year ∧
        isoOrdinal year ((thursday - 1) / 7 + 1).toNat weekday = thursday - 3 + weekday := by
  have hyear := daysInYear_le year
  have hfirst : (weekdayOf year 1 : Int) = (dayNumber year 0) % 7 := by
    simp only [weekdayOf, dayNumber]
    omega
  have hlast : (weekdayOf year (daysInYear year) : Int) =
      (dayNumber year 0 + daysInYear year - 1) % 7 := by
    simp only [weekdayOf, dayNumber]
    omega
  have hnumber : dayNumber year thursday = dayNumber year 0 + thursday := by
    simp only [dayNumber]
    omega
  rw [hnumber] at hthursday
  refine ⟨by omega, ?_, ?_⟩
  · unfold isoWeeks
    split <;> omega
  · simp only [isoOrdinal]
    split <;> omega

/-- The Thursday of the ISO week of a date by its day of the ISO year, and where the date stands in
that year. -/
theorem exists_thursday (date : Date) :
    ∃ thursday : Int, date.isoWeek.2 = ((thursday - 1) / 7 + 1).toNat ∧ 1 ≤ thursday ∧
      thursday ≤ daysInYear date.isoWeek.1 ∧ (dayNumber date.isoWeek.1 thursday - 1) % 7 = 3 ∧
        ((date.isoWeek.1 = date.year ∧ thursday - 3 + date.weekday = date.ordinal) ∨
          (date.isoWeek.1 + 1 = date.year ∧
            thursday - 3 + date.weekday = date.ordinal + daysInYear date.isoWeek.1) ∨
          (date.isoWeek.1 = date.year + 1 ∧
            thursday - 3 + date.weekday + daysInYear date.year = date.ordinal)) := by
  have hpos := date.ordinal_pos
  have hordinal := date.ordinal_le
  have hlt := date.weekday_lt
  have hnumber : (date.weekday : Int) = (dayNumber date.year 0 + date.ordinal - 1) % 7 := by
    simp only [weekday, weekdayOf, dayNumber]
    omega
  have hcount : ∀ n, dayNumber date.year n = dayNumber date.year 0 + n := by
    intro n
    simp only [dayNumber]
    omega
  by_cases hbefore : (date.ordinal : Int) + 3 - date.weekday < 1
  · have hprevious := dayNumber_succ (date.year - 1) 0
    have hyear := daysInYear_le (date.year - 1)
    rw [Int.sub_add_cancel] at hprevious
    have hiso : date.isoWeek = (date.year - 1, (((date.ordinal : Int) + 3 - date.weekday +
        daysInYear (date.year - 1) - 1) / 7 + 1).toNat) :=
      if_pos hbefore
    have hlast : dayNumber (date.year - 1)
        ((date.ordinal : Int) + 3 - date.weekday + daysInYear (date.year - 1)) =
          dayNumber date.year 0 + ((date.ordinal : Int) + 3 - date.weekday) := by
      simp only [dayNumber] at hprevious ⊢
      omega
    rw [hiso]
    dsimp only
    exact ⟨_, rfl, by omega, by omega, by rw [hlast]; omega, by omega⟩
  · by_cases hafter : (daysInYear date.year : Int) < (date.ordinal : Int) + 3 - date.weekday
    · have hnext := dayNumber_succ date.year
        ((date.ordinal : Int) + 3 - date.weekday - daysInYear date.year)
      have hyear := daysInYear_le (date.year + 1)
      have hiso : date.isoWeek = (date.year + 1, 1) := (if_neg hbefore).trans (if_pos hafter)
      rw [Int.sub_add_cancel, hcount] at hnext
      rw [hiso]
      dsimp only
      exact ⟨(date.ordinal : Int) + 3 - date.weekday - daysInYear date.year, by omega, by omega,
        by omega, by rw [hnext]; omega, by omega⟩
    · have hiso : date.isoWeek = (date.year,
          (((date.ordinal : Int) + 3 - date.weekday - 1) / 7 + 1).toNat) :=
        (if_neg hbefore).trans (if_neg hafter)
      rw [hiso]
      dsimp only
      exact ⟨_, rfl, by omega, by omega, by rw [hcount]; omega, by omega⟩

/-- An ISO week is one of 53. -/
theorem isoWeek_le (date : Date) : 1 ≤ date.isoWeek.2 ∧ date.isoWeek.2 ≤ 53 := by
  obtain ⟨thursday, hweek, hpos, hle, -, -⟩ := date.exists_thursday
  have hyear := daysInYear_le date.isoWeek.1
  omega

/-- The ISO year is that of the date or one next to it. -/
theorem natAbs_isoYear_le (date : Date) : date.isoWeek.1.natAbs ≤ 262144 := by
  obtain ⟨thursday, -, -, -, -, hplace⟩ := date.exists_thursday
  have hyear := date.natAbs_year_le
  omega

/-- The ISO week and the day of the week give the date back. -/
theorem ofIsoWeek?_isoWeek (date : Date) :
    ofIsoWeek? date.isoWeek.1 date.isoWeek.2 date.weekday = some date := by
  obtain ⟨thursday, hweek, hpos, hle, hthursday, hplace⟩ := date.exists_thursday
  obtain ⟨hne, hweeks, hordinal⟩ := isoOrdinal_thursday hpos hle hthursday date.weekday
  have hfirst := date.ordinal_pos
  have hlast := date.ordinal_le
  rw [← hweek] at hne hweeks hordinal
  rw [ofIsoWeek?, if_neg (by omega)]
  simp only [hordinal]
  rcases hplace with ⟨hyear, hday⟩ | ⟨hyear, hday⟩ | ⟨hyear, hday⟩
  · rw [hyear] at hle ⊢
    rw [if_neg (by omega), if_neg (by omega), hday, Int.toNat_natCast, ofOrdinal?_ordinal]
  · have hrest : (thursday - 3 + date.weekday - daysInYear date.isoWeek.1).toNat =
        date.ordinal := by
      omega
    rw [if_neg (by omega), if_pos (by omega), hyear, hrest, ofOrdinal?_ordinal]
  · have hyear' : date.isoWeek.1 - 1 = date.year := by omega
    have hrest : (thursday - 3 + date.weekday + daysInYear date.year).toNat = date.ordinal := by
      omega
    rw [if_pos (by omega), hyear', hrest, ofOrdinal?_ordinal]

end Date
end Calendar
end SchemaForm
