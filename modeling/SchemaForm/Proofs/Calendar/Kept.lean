import SchemaForm.Proofs.Calendar.Default
import SchemaForm.Proofs.Calendar.Untold

/-!
# Years that stay

A number that was told is not told differently later: reading on either keeps it or
fails.  The years of a date that is told in the end are therefore those that were told
on the way, in full or not at all.

Main results:

- Theorem `keeps_of_readItems`: the full years that were told stay while items are read.
- Theorem `le_of_toDate`: the full years of a date that is told are among those that dates have.
- Theorem `exists_toDate_of_toDateTime`: a timestamp does not replace them.
-/

namespace SchemaForm
namespace Calendar

open Result

/-! ## Days of a year -/

/-- The day of a year is in that year. -/
theorem Date.year_of_ofOrdinal? {year : Int} {ordinal : Nat} {date : Date}
    (h : Date.ofOrdinal? year ordinal = some date) : date.year = year := by
  unfold Date.ofOrdinal? at h
  split at h
  · exact (Date.of?_eq_some.mp h).1
  · cases h

/-- The day of an ISO year is in that year or next to it. -/
theorem Date.le_of_ofIsoWeek? {year : Int} {week weekday : Nat} {date : Date}
    (h : Date.ofIsoWeek? year week weekday = some date) : leastYear - 1 ≤ year := by
  have hyear := date.year_le.1
  unfold Date.ofIsoWeek? at h
  split at h
  · cases h
  · dsimp only at h
    split at h
    · have hsame := Date.year_of_ofOrdinal? h
      omega
    · split at h
      · have hsame := Date.year_of_ofOrdinal? h
        omega
      · have hsame := Date.year_of_ofOrdinal? h
        omega

/-! ## Numbers that stay -/

namespace Fields

/-- The full year and ISO year that were told before are told after. -/
structure Keeps (before after : Fields) : Prop where
  year : ∀ n ∈ before.year.full, n ∈ after.year.full
  isoYear : ∀ n ∈ before.isoYear.full, n ∈ after.isoYear.full

variable {fields told next : Fields} {cs rest : List Char}

theorem Keeps.refl (fields : Fields) : fields.Keeps fields :=
  ⟨fun _ h => h, fun _ h => h⟩

theorem Keeps.trans (h : fields.Keeps next) (h' : next.Keeps told) : fields.Keeps told :=
  ⟨fun n hn => h'.year n (h.year n hn), fun n hn => h'.isoYear n (h.isoYear n hn)⟩

/-- Where the years are the same nothing is lost. -/
theorem Keeps.of_eq (hyear : told.year.full = fields.year.full)
    (hisoYear : told.isoYear.full = fields.isoYear.full) : fields.Keeps told := by
  constructor
  · intro n hn
    rw [hyear]
    exact hn
  · intro n hn
    rw [hisoYear]
    exact hn

/-- A full year that is told is the only one. -/
theorem full_of_setFull {year later : YearFields} {n : Int} (h : year.setFull n = .ok later) :
    later.full = some n ∧ ∀ m ∈ year.full, m = n := by
  simp only [YearFields.setFull, bind_eq_ok, pure_eq_ok] at h
  obtain ⟨m, hm, full, hfull, rfl⟩ := h
  have hsame : m = n := by
    unfold within at hm
    split at hm
    · exact (Except.ok.inj hm).symm
    · cases hm
  subst hsame
  obtain ⟨rfl, hbefore⟩ := agree_eq_ok.mp hfull
  refine ⟨rfl, fun k hk => ?_⟩
  rcases hbefore with hnone | hsome
  · rw [hnone] at hk
    cases hk
  · rw [hsome] at hk
    exact (Option.some.inj hk).symm

/-- A full year stays when it is told again. -/
theorem mem_full_of_setFull {year later : YearFields} {n : Int} (h : year.setFull n = .ok later) :
    ∀ m ∈ year.full, m ∈ later.full := by
  intro m hm
  obtain ⟨hlater, hsame⟩ := full_of_setFull h
  rw [hlater, hsame m hm]
  rfl

/-- Telling a number keeps the years. -/
theorem keeps_of_tell {n : Int} {part : NumericPart} (h : Reading.tell fields n part = .ok told) :
    fields.Keeps told := by
  cases part with
  | year =>
      simp only [Reading.tell, setYear, bind_eq_ok, pure_eq_ok] at h
      obtain ⟨year, hyear, rfl⟩ := h
      exact ⟨mem_full_of_setFull hyear, fun _ hn => hn⟩
  | isoYear =>
      simp only [Reading.tell, bind_eq_ok, pure_eq_ok] at h
      obtain ⟨year, hyear, rfl⟩ := h
      exact ⟨fun _ hn => hn, mem_full_of_setFull hyear⟩
  | century =>
      simp only [Reading.tell, YearFields.setCentury, bind_eq_ok, pure_eq_ok] at h
      obtain ⟨_, ⟨_, _, _, _, rfl⟩, rfl⟩ := h
      exact .of_eq rfl rfl
  | yearOfCentury | isoYearOfCentury =>
      simp only [Reading.tell, YearFields.setOfCentury, bind_eq_ok, pure_eq_ok] at h
      obtain ⟨_, ⟨_, _, _, _, rfl⟩, rfl⟩ := h
      exact .of_eq rfl rfl
  | hour =>
      simp only [Reading.tell, setHour, bind_eq_ok, pure_eq_ok] at h
      obtain ⟨_, _, _, _, _, _, rfl⟩ := h
      exact .of_eq rfl rfl
  | timestamp =>
      simp only [Reading.tell, setTimestamp, bind_eq_ok, pure_eq_ok] at h
      obtain ⟨_, _, rfl⟩ := h
      exact .of_eq rfl rfl
  | _ =>
      simp only [Reading.tell, setQuarter, setMonth, setDay, setWeekFromSunday, setWeekFromMonday,
        setIsoWeek, setWeekday, setOrdinal, setHour12, setMinute, setSecond, setNanosecond,
        bind_eq_ok, pure_eq_ok] at h
      obtain ⟨_, _, _, _, rfl⟩ := h
      exact .of_eq rfl rfl

/-- Reading a name keeps the years. -/
theorem keeps_of_name {part : NamePart} (h : Reading.name part fields cs = .ok (told, rest)) :
    fields.Keeps told := by
  cases part with
  | shortMonth | longMonth =>
      simp only [Reading.name, setMonth, bind_eq_ok, pure_eq_ok, Prod.mk.injEq] at h
      obtain ⟨_, _, _, ⟨_, _, _, _, rfl⟩, rfl, -⟩ := h
      exact .of_eq rfl rfl
  | shortWeekday | longWeekday =>
      simp only [Reading.name, setWeekday, bind_eq_ok, pure_eq_ok, Prod.mk.injEq] at h
      obtain ⟨_, _, _, ⟨_, _, rfl⟩, rfl, -⟩ := h
      exact .of_eq rfl rfl
  | lowerHalfOfDay | upperHalfOfDay =>
      simp only [Reading.name] at h
      split at h
      · cases h
      · split at h
        all_goals
          simp only [setHalfOfDay, bind_eq_ok, pure_eq_ok, Prod.mk.injEq, reduceCtorEq] at h
        all_goals
          obtain ⟨_, ⟨_, _, rfl⟩, rfl, -⟩ := h
          exact .of_eq rfl rfl

/-- Reading a fraction keeps the years. -/
theorem keeps_of_fraction {part : FractionPart}
    (h : Reading.fraction part fields cs = .ok (told, rest)) : fields.Keeps told := by
  unfold Reading.fraction at h
  split at h
  case h_4 =>
    cases h
    exact .refl _
  all_goals
    simp only [bind_eq_ok, pure_eq_ok, Prod.mk.injEq] at h
    obtain ⟨_, _, later, hlater, rfl, -⟩ := h
    exact @keeps_of_tell fields later _ .nanosecond hlater

/-- Reading an offset keeps the years. -/
theorem keeps_of_offset {zulu missingMinutes : Bool}
    (h : Reading.offset zulu missingMinutes fields cs = .ok (told, rest)) : fields.Keeps told := by
  have hoffset : ∀ {n : Int}, fields.setOffset n = .ok told → fields.Keeps told := by
    intro n hn
    simp only [setOffset, bind_eq_ok, pure_eq_ok] at hn
    obtain ⟨_, _, rfl⟩ := hn
    exact .of_eq rfl rfl
  unfold Reading.offset at h
  split at h
  · cases h
  · split at h
    · simp only [bind_eq_ok, pure_eq_ok, Prod.mk.injEq] at h
      obtain ⟨later, hlater, rfl, -⟩ := h
      exact hoffset hlater
    · split at h
      · obtain ⟨⟨tens, ones, left⟩, -, h⟩ := bind_eq_ok.mp h
        dsimp only at h
        split at h
        · split at h
          · simp only [bind_eq_ok, pure_eq_ok, Prod.mk.injEq] at h
            obtain ⟨later, hlater, rfl, -⟩ := h
            exact hoffset hlater
          · cases h
        · obtain ⟨⟨tens, ones, left⟩, -, h⟩ := bind_eq_ok.mp h
          dsimp only at h
          split at h
          · simp only [bind_eq_ok, pure_eq_ok, Prod.mk.injEq] at h
            obtain ⟨later, hlater, rfl, -⟩ := h
            exact hoffset hlater
          · cases h
      · cases h

/-- Reading an item other than a whole date keeps the years. -/
theorem keeps_of_simpleItem {item : Item}
    (h : Reading.simpleItem item fields cs = .ok (told, rest)) : fields.Keeps told := by
  cases item with
  | literal text =>
      simp only [Reading.simpleItem] at h
      split at h
      · cases h
      · split at h
        · cases h
          exact .refl _
        · cases h
  | blank text =>
      cases h
      exact .refl _
  | numeric part padding =>
      obtain ⟨n, htell⟩ := exists_tell_of_numeric h
      exact keeps_of_tell htell
  | name part => exact keeps_of_name h
  | fraction part => exact keeps_of_fraction h
  | zone part =>
      cases part with
      | name =>
          cases h
          exact .refl _
      | offset colons => exact keeps_of_offset h
      | permissiveOffset => exact keeps_of_offset h
      | full => cases h
  | unknown => cases h

/-- Reading such items in turn keeps the years. -/
theorem keeps_of_simpleItems {items : List Item}
    (h : Reading.simpleItems items fields cs = .ok (told, rest)) : fields.Keeps told := by
  induction items generalizing fields cs with
  | nil =>
      cases h
      exact .refl _
  | cons item items ih =>
      obtain ⟨⟨later, left⟩, hitem, hrest⟩ := bind_eq_ok.mp h
      exact (keeps_of_simpleItem hitem).trans (ih hrest)

/-- Reading a whole date and time keeps the years. -/
theorem keeps_of_full (h : Reading.full fields cs = .ok (told, rest)) : fields.Keeps told := by
  obtain ⟨⟨later, left⟩, hday, h⟩ := bind_eq_ok.mp h
  refine (keeps_of_simpleItems hday).trans ?_
  dsimp only at h
  split at h
  · cases h
  · split at h
    · obtain ⟨⟨last, left⟩, hclock, h⟩ := bind_eq_ok.mp h
      refine (keeps_of_simpleItems hclock).trans ?_
      dsimp only at h
      split at h
      · simp only [setOffset, bind_eq_ok, pure_eq_ok, Prod.mk.injEq] at h
        obtain ⟨_, ⟨_, _, rfl⟩, rfl, -⟩ := h
        exact .of_eq rfl rfl
      · exact keeps_of_offset h
    · cases h

/-- Reading an item keeps the years. -/
theorem keeps_of_item {item : Item} (h : Reading.item item fields cs = .ok (told, rest)) :
    fields.Keeps told := by
  unfold Reading.item at h
  split at h
  · exact keeps_of_full h
  · exact keeps_of_simpleItem h

/-- The years that were told stay while items are read. -/
theorem keeps_of_readItems {items : List Item} (h : readItems items fields cs = .ok (told, rest)) :
    fields.Keeps told := by
  induction items generalizing fields cs with
  | nil =>
      cases h
      exact .refl _
  | cons item items ih =>
      obtain ⟨⟨later, left⟩, hitem, hrest⟩ := bind_eq_ok.mp h
      exact (keeps_of_item hitem).trans (ih hrest)

/-! ## Years of dates that are told -/

variable {date : Date}

/-- A full year is the one that is told. -/
theorem resolve_of_full {year : YearFields} {found : Option Int} (h : year.resolve = .ok found) :
    ∀ n ∈ year.full, found = some n := by
  intro n hn
  rw [Option.mem_def] at hn
  unfold YearFields.resolve at h
  split at h
  · cases h
    exact hn
  · rename_i full century ofCentury hfull _
    cases hfull.symm.trans hn
    split at h
    · cases h
    · split at h
      · cases h
        rfl
      · cases h
  · rename_i hfull _ _
    cases hfull.symm.trans hn
  · rename_i hfull _ _
    cases hfull.symm.trans hn
  · rename_i hfull _ _
    cases hfull.symm.trans hn

/-- A year that is accepted is the full year. -/
theorem eq_of_accepts {year : YearFields} {n : Int} (h : year.accepts n = true) :
    ∀ m ∈ year.full, m = n := by
  intro m hm
  rw [Option.mem_def] at hm
  have hfull := (Bool.and_eq_true_iff.mp h).1
  rw [hm] at hfull
  exact beq_iff_eq.mp hfull

/-- The years of a date that is told are among those that dates have. -/
theorem le_of_toDate (h : fields.toDate = .ok date) :
    (∀ n ∈ fields.year.full, leastYear ≤ n) ∧ ∀ n ∈ fields.isoYear.full, leastYear - 1 ≤ n := by
  have hday : fields.acceptsDay date = true → ∀ n ∈ fields.year.full, leastYear ≤ n := by
    intro haccepts n hn
    have hyear := (Bool.and_eq_true_iff.mp (Bool.and_eq_true_iff.mp haccepts).1).1
    rw [eq_of_accepts hyear n hn]
    exact date.year_le.1
  have hweek : fields.acceptsIsoWeek date = true →
      ∀ n ∈ fields.isoYear.full, leastYear - 1 ≤ n := by
    intro haccepts n hn
    have hyear := (Bool.and_eq_true_iff.mp (Bool.and_eq_true_iff.mp haccepts).1).1
    rw [eq_of_accepts hyear n hn]
    have hle := date.natAbs_isoYear_le
    unfold leastYear
    omega
  have hall : fields.acceptsAll date = true → (∀ n ∈ fields.year.full, leastYear ≤ n) ∧
      ∀ n ∈ fields.isoYear.full, leastYear - 1 ≤ n := by
    intro haccepts
    obtain ⟨hboth, -⟩ := Bool.and_eq_true_iff.mp haccepts
    obtain ⟨hfirst, hsecond⟩ := Bool.and_eq_true_iff.mp hboth
    exact ⟨hday hfirst, hweek hsecond⟩
  obtain ⟨year, hyear, h⟩ := bind_eq_ok.mp h
  obtain ⟨isoYear, hisoYear, h⟩ := bind_eq_ok.mp h
  obtain ⟨⟨agrees, found⟩, hcandidate, h⟩ := bind_eq_ok.mp h
  dsimp only at h
  split at h
  · rename_i haccepts
    cases h
    obtain ⟨rfl, -⟩ := Bool.and_eq_true_iff.mp haccepts
    unfold candidate at hcandidate
    split at hcandidate
    · obtain ⟨other, hother, heq⟩ := bind_eq_ok.mp hcandidate
      obtain ⟨hagrees, rfl⟩ := Prod.mk.inj (pure_eq_ok.mp heq)
      refine ⟨fun n hn => ?_, hweek (Bool.and_eq_true_iff.mp hagrees).1⟩
      have hsame := (Date.of?_eq_some.mp (inRange_eq_ok hother)).1
      cases resolve_of_full hyear n hn
      rw [← hsame]
      exact other.year_le.1
    · obtain ⟨other, -, heq⟩ := bind_eq_ok.mp hcandidate
      obtain ⟨hagrees, rfl⟩ := Prod.mk.inj (pure_eq_ok.mp heq)
      exact hall hagrees
    · obtain ⟨other, -, heq⟩ := bind_eq_ok.mp hcandidate
      obtain ⟨hagrees, rfl⟩ := Prod.mk.inj (pure_eq_ok.mp heq)
      exact hall hagrees
    · obtain ⟨other, -, heq⟩ := bind_eq_ok.mp hcandidate
      obtain ⟨hagrees, rfl⟩ := Prod.mk.inj (pure_eq_ok.mp heq)
      exact hall hagrees
    · obtain ⟨other, hother, heq⟩ := bind_eq_ok.mp hcandidate
      obtain ⟨hagrees, rfl⟩ := Prod.mk.inj (pure_eq_ok.mp heq)
      refine ⟨hday (Bool.and_eq_true_iff.mp hagrees).1, fun n hn => ?_⟩
      cases resolve_of_full hisoYear n hn
      exact Date.le_of_ofIsoWeek? (inRange_eq_ok hother)
    · cases hcandidate
  · cases h

/-- What is told of a moment, with its date at the end, keeps the years. -/
theorem exists_toDate_of_moment {moment found : DateTime}
    (h : (do
      let fields ← fields.setYear moment.date.year
      let fields ← fields.setOrdinal moment.date.ordinal
      let fields ← fields.setHour moment.time.hour
      let fields ← fields.setMinute moment.time.minute
      let date ← fields.toDate
      let time ← fields.toTime
      return (⟨date, time⟩ : DateTime)) = .ok found) :
    ∃ later, fields.Keeps later ∧ ∃ date, later.toDate = .ok date := by
  obtain ⟨first, hfirst, h⟩ := bind_eq_ok.mp h
  obtain ⟨second, hsecond, h⟩ := bind_eq_ok.mp h
  obtain ⟨third, hthird, h⟩ := bind_eq_ok.mp h
  obtain ⟨last, hlast, h⟩ := bind_eq_ok.mp h
  obtain ⟨date, hdate, -⟩ := bind_eq_ok.mp h
  have hyear := @keeps_of_tell _ first _ .year hfirst
  have hordinal := @keeps_of_tell _ second _ .ordinal hsecond
  have hhour := @keeps_of_tell _ third _ .hour hthird
  have hminute := @keeps_of_tell _ last _ .minute hlast
  exact ⟨last, ((hyear.trans hordinal).trans hhour).trans hminute, date, hdate⟩

/-- The date and time of a timestamp has a date that is told with the same years. -/
theorem exists_toDate_of_ofTimestamp {timestamp : Int} {found : DateTime}
    (h : fields.ofTimestamp timestamp = .ok found) :
    ∃ later, fields.Keeps later ∧ ∃ date, later.toDate = .ok date := by
  unfold ofTimestamp at h
  split at h
  · dsimp only at h
    split at h
    · split at h
      · exact exists_toDate_of_moment h
      · obtain ⟨first, hfirst, h⟩ := bind_eq_ok.mp h
        obtain ⟨later, hlater, htold⟩ := exists_toDate_of_moment h
        exact ⟨later, (@keeps_of_tell _ first _ .second hfirst).trans hlater, htold⟩
    · cases h
  · cases h

/-- A date and time that is told, perhaps by a timestamp, has a date that is told with the same
years. -/
theorem exists_toDate_of_toDateTime {found : DateTime} (h : fields.toDateTime = .ok found) :
    ∃ later, fields.Keeps later ∧ ∃ date, later.toDate = .ok date := by
  unfold toDateTime at h
  split at h
  · rename_i hdate _ _
    exact ⟨fields, .refl fields, _, hdate⟩
  · rename_i hdate _ _
    exact ⟨fields, .refl fields, _, hdate⟩
  · split at h
    · cases h
    · split at h
      · cases h
      · exact exists_toDate_of_ofTimestamp h
  · cases h
  · cases h

end Fields
end Calendar
end SchemaForm
