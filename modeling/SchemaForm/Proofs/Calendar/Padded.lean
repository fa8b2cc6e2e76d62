import SchemaForm.Proofs.Calendar.Told
import SchemaForm.Proofs.Result

/-!
# Padded numbers read back

A number may be written without padding, with zeros or with blanks.  Blanks before
it are skipped.  A number that fills its place may be followed by anything, and a
shorter one by everything but a digit.

Main results:

- Theorem `isPadded_signed`: a number is written as its digits after blanks.
- Theorem `text_numeric`: so is every number of a date and time but the year.
- Theorem `numeric_written`: a written number is told.
-/

namespace SchemaForm
namespace Calendar

open Result

namespace Writing

/-- Blanks and then digits of a number, at least one and no more than the place has. -/
structure IsPadded (width n : Nat) (text : List Char) (blanks : Nat) (cs : List Char) : Prop where
  text_eq : text = List.replicate blanks ' ' ++ cs
  ne_nil : cs ≠ []
  isDigit : ∀ c ∈ cs, c.isDigit = true
  value_eq : Nat.ofDigitChars 10 cs 0 = n
  length_le : cs.length ≤ width

/-- A number without padding is its digits. -/
theorem isPadded_digits {width n : Nat} (hwidth : 0 < width) (h : n < tenTo width) :
    IsPadded width n (digits n) 0 (digits n) where
  text_eq := rfl
  ne_nil := Nat.toDigits_ne_nil
  isDigit _ hc := Text.isDigit_of_mem hc
  value_eq := Nat.ofDigitChars_ten_toDigits
  length_le := (Nat.length_toDigits_le_iff (by decide) hwidth).mpr h

/-- A number is written as its digits after blanks; zeros fill its place, and so does every number
in a place for one digit. -/
theorem isPadded_signed {width n : Nat} (hwidth : 0 < width) (h : n < tenTo width)
    (padding : Padding) :
    ∃ blanks cs, IsPadded width n (signed width padding false n) blanks cs ∧
      (padding = .zero ∨ width = 1 → cs.length = width) := by
  have hplain := isPadded_digits hwidth h
  have hpos := List.length_pos_iff.mpr hplain.ne_nil
  have hle := hplain.length_le
  cases padding with
  | nothing => exact ⟨0, digits n, hplain, fun hfixed => by simp at hfixed; omega⟩
  | zero =>
      have hlength := length_fill hwidth h
      exact ⟨0, fill width '0' (digits n), ⟨rfl, fill_ne_nil width n, fun c hc =>
        isDigit_of_mem_fill hc, ofDigitChars_fill width n, Nat.le_of_eq hlength⟩, fun _ => hlength⟩
  | blank =>
      exact ⟨width - (digits n).length, digits n,
        ⟨rfl, hplain.ne_nil, hplain.isDigit, hplain.value_eq, hle⟩,
        fun hfixed => by simp at hfixed; omega⟩

/-- A number of two digits is written like one without a sign. -/
theorem two_eq_signed (padding : Padding) (n : Nat) :
    two padding n = signed 2 padding false n := by
  cases padding <;> rfl

/-- A digit has nothing to be padded with. -/
theorem digits_eq_signed {n : Nat} (h : n < 10) (padding : Padding) :
    digits n = signed 1 padding false n := by
  have hdigit := isPadded_digits Nat.one_pos (show n < tenTo 1 from h)
  have hlength : (digits n).length = 1 :=
    Nat.le_antisymm hdigit.length_le (List.length_pos_iff.mpr hdigit.ne_nil)
  have hfill : ∀ c, fill 1 c (digits n) = digits n := by
    intro c
    rw [fill, hlength]
    rfl
  cases padding with
  | nothing => rfl
  | zero => exact (hfill '0').symm
  | blank => exact (hfill ' ').symm

/-- A year is written as its digits after blanks and its sign. -/
theorem exists_yearText_eq (padding : Padding) (year : Int) :
    ∃ blanks cs, yearText padding year = List.replicate blanks ' ' ++
        ((if year < 0 then ['-'] else if 9999 < year then ['+'] else []) ++ cs) ∧
      cs ≠ [] ∧ (∀ c ∈ cs, c.isDigit = true) ∧ Nat.ofDigitChars 10 cs 0 = year.natAbs ∧
        (0 ≤ year → year ≤ 9999 → cs.length ≤ 4) := by
  have hplain : ∀ c ∈ digits year.natAbs, c.isDigit = true := fun c hc => Text.isDigit_of_mem hc
  have hshort : 0 ≤ year → year ≤ 9999 → (digits year.natAbs).length ≤ 4 := by
    intro hpos hfour
    have hsmall : year.natAbs < 10 ^ 4 := by omega
    exact (Nat.length_toDigits_le_iff (by decide) (by decide)).mpr hsmall
  cases padding with
  | nothing =>
      refine ⟨0, digits year.natAbs, ?_, Nat.toDigits_ne_nil, hplain,
        Nat.ofDigitChars_ten_toDigits, hshort⟩
      by_cases hnegative : year < 0
      · simp [yearText, signed, hnegative]
      · simp [yearText, signed, hnegative]
  | zero =>
      refine ⟨0, fill 4 '0' (digits year.natAbs), Reading.yearText_eq year, fill_ne_nil 4 _,
        fun c hc => isDigit_of_mem_fill hc, ofDigitChars_fill 4 _, fun hpos hfour => ?_⟩
      have hsmall : year.natAbs < tenTo 4 := show year.natAbs < 10000 by omega
      exact Nat.le_of_eq (length_fill (by decide) hsmall)
  | blank =>
      have hfilled : ∃ blanks, yearText .blank year = List.replicate blanks ' ' ++
          ((if year < 0 then ['-'] else if 9999 < year then ['+'] else []) ++
            digits year.natAbs) := by
        by_cases hnegative : year < 0
        · simp only [yearText, signed, hnegative, if_true]
          exact ⟨_, rfl⟩
        · simp only [yearText, signed, hnegative, decide_false, Bool.false_or, decide_eq_true_eq]
          exact ⟨_, rfl⟩
      obtain ⟨blanks, hblanks⟩ := hfilled
      exact ⟨blanks, digits year.natAbs, hblanks, Nat.toDigits_ne_nil, hplain,
        Nat.ofDigitChars_ten_toDigits, hshort⟩

end Writing

/-! ## Numbers of a date and time -/

/-- Whether a part under a padding always fills its place. -/
def NumericPart.isFixed (padding : Padding) (part : NumericPart) : Bool :=
  Reading.width part = 1 || (padding = .zero && part ≠ .year && part ≠ .isoYear)

namespace Reading

open Writing (IsPadded digits two signed)

variable {moment : DateTime} {part : NumericPart} {slots : List Slot} {padding : Padding}
  {text : List Char}

/-- Every number of a date and time but its years is written without a sign. -/
theorem text_numeric (hslots : part.slots? = some slots) (hpart : part ≠ .year ∧ part ≠ .isoYear)
    (htext : Writing.numeric? moment.date (some moment.time) padding part = some text) :
    text = signed (width part) padding false (part.value moment) := by
  obtain ⟨hlow, hhigh⟩ := NumericPart.value_within hslots moment
  cases part with
  | year => exact absurd rfl hpart.1
  | isoYear => exact absurd rfl hpart.2
  | yearOfCentury =>
      have hcentury : ((moment.date.year % 100).toNat : Int) = moment.date.year % 100 := by omega
      cases htext
      rw [Writing.two_eq_signed, hcentury]
      rfl
  | quarter =>
      cases htext
      have hquarter : (moment.date.quarter : Int) ≤ 4 := hhigh
      exact Writing.digits_eq_signed (by omega) padding
  | weekdayFromSunday =>
      cases htext
      exact Writing.digits_eq_signed (by omega) padding
  | weekdayFromMonday =>
      cases htext
      have hweekday := moment.date.weekday_lt
      exact Writing.digits_eq_signed (by omega) padding
  | ordinal =>
      cases htext
      rfl
  | nanosecond =>
      cases htext
      rfl
  | isoYearOfCentury =>
      have hcentury : ((moment.date.isoWeek.1 % 100).toNat : Int) =
          moment.date.isoWeek.1 % 100 := by
        omega
      cases htext
      rw [Writing.two_eq_signed, hcentury]
      rfl
  | century => cases hslots
  | timestamp => cases hslots
  | _ =>
      cases htext
      exact Writing.two_eq_signed padding _

/-- Blanks before digits are trimmed. -/
theorem trimStart_replicate {cs : List Char} (hcs : cs ≠ []) (h : ∀ c ∈ cs, Text.isBlank c = false)
    (blanks : Nat) (rest : List Char) :
    Text.trimStart (List.replicate blanks ' ' ++ cs ++ rest) = cs ++ rest := by
  have hblank : ∀ c ∈ List.replicate blanks ' ', Text.isBlank c = true := by
    intro c hc
    rw [(List.mem_replicate.mp hc).2]
    rfl
  rw [List.append_assoc, Text.trimStart_append_blanks hblank, Text.trimStart_append hcs h]

/-- A padded number that fills its place, or is followed by no digit, is read. -/
theorem number_padded {width n blanks : Nat} {cs : List Char} (h : IsPadded width n text blanks cs)
    (hn : n ≤ 9223372036854775807) {rest : List Char}
    (hrest : cs.length = width ∨ ∀ c ∈ rest.head?, c.isDigit = false) :
    number width (Text.trimStart (text ++ rest)) = .ok (n, rest) := by
  have hblank : ∀ c ∈ cs, Text.isBlank c = false := fun c hc =>
    Text.isBlank_of_isDigit (h.isDigit c hc)
  rw [h.text_eq, trimStart_replicate h.ne_nil hblank,
    number_append rest h.ne_nil h.isDigit width h.length_le hrest, h.value_eq]
  rw [h.value_eq]
  exact hn

/-- A written year is read when it is followed by no digit. -/
theorem signedNumber_written {year : Int} (hyear : year.natAbs ≤ 262144) (padding : Padding)
    {rest : List Char} (hrest : ∀ c ∈ rest.head?, c.isDigit = false) :
    signedNumber 4 (Text.trimStart (Writing.yearText padding year ++ rest)) =
      .ok (year, rest) := by
  obtain ⟨blanks, cs, htext, hne, hdigits, hvalue, hshort⟩ :=
    Writing.exists_yearText_eq padding year
  have hblank : ∀ c ∈ (if year < 0 then ['-'] else if 9999 < year then ['+'] else []) ++ cs,
      Text.isBlank c = false := by
    intro c hc
    rcases List.mem_append.mp hc with hc | hc
    · split at hc
      · rw [List.mem_singleton.mp hc]
        rfl
      · split at hc
        · rw [List.mem_singleton.mp hc]
          rfl
        · cases hc
    · exact Text.isBlank_of_isDigit (hdigits c hc)
  rw [htext, trimStart_replicate (by simp [hne]) hblank]
  exact signedNumber_append hyear hne hdigits hvalue hshort hrest

/-- A number is read after blanks, and only a year may carry a sign. -/
theorem numeric_eq (hslots : part.slots? = some slots) (fields : Fields) (cs : List Char) :
    numeric part fields cs =
      ((if part = .year ∨ part = .isoYear then signedNumber 4 (Text.trimStart cs)
        else number (width part) (Text.trimStart cs)) >>= fun found =>
          (tell fields found.1 part).map fun told => (told, found.2)) := by
  cases part with
  | timestamp => cases hslots
  | _ => rfl

/-- A number of a date and time but its years has no more digits than its place. -/
theorem exists_value_lt (hslots : part.slots? = some slots)
    (hpart : part ≠ .year ∧ part ≠ .isoYear) :
    ∃ n : Nat, part.value moment = n ∧ n < tenTo (width part) := by
  obtain ⟨hlow, hhigh⟩ := NumericPart.value_within hslots moment
  have hlimits : 0 ≤ part.limits.1 ∧ part.limits.2 < tenTo (width part) := by
    cases part with
    | year => exact absurd rfl hpart.1
    | isoYear => exact absurd rfl hpart.2
    | century => cases hslots
    | timestamp => cases hslots
    | _ => decide
  obtain ⟨n, hn⟩ := Int.eq_ofNat_of_zero_le (show 0 ≤ part.value moment by omega)
  exact ⟨n, hn, by omega⟩

/-- A written number is read as the number of the date and time. -/
theorem number_written (hslots : part.slots? = some slots)
    (htext : Writing.numeric? moment.date (some moment.time) padding part = some text)
    {rest : List Char}
    (hrest : part.isFixed padding = true ∨ ∀ c ∈ rest.head?, c.isDigit = false) :
    (if part = .year ∨ part = .isoYear then signedNumber 4 (Text.trimStart (text ++ rest))
      else number (width part) (Text.trimStart (text ++ rest))) =
        .ok (part.value moment, rest) := by
  by_cases hyear : part = .year ∨ part = .isoYear
  · rw [if_pos hyear]
    have hstop : ∀ c ∈ rest.head?, c.isDigit = false := by
      refine hrest.resolve_left ?_
      rcases hyear with rfl | rfl <;> simp [NumericPart.isFixed, width]
    rcases hyear with rfl | rfl
    · cases htext
      have hyear := moment.date.natAbs_year_le
      exact signedNumber_written (by omega) padding hstop
    · cases htext
      exact signedNumber_written moment.date.natAbs_isoYear_le padding hstop
  · rw [if_neg hyear]
    have hpart := not_or.mp hyear
    obtain ⟨n, hn, hlt⟩ := @exists_value_lt moment part slots hslots hpart
    have hwidth : 0 < width part ∧ tenTo (width part) ≤ 1000000000 := by
      cases part <;> decide
    obtain ⟨blanks, cs, hpadded, hfills⟩ := Writing.isPadded_signed hwidth.1 hlt padding
    have hstop : cs.length = width part ∨ ∀ c ∈ rest.head?, c.isDigit = false := by
      refine hrest.imp_left fun hfixed => hfills ?_
      simp only [NumericPart.isFixed, Bool.or_eq_true, Bool.and_eq_true, decide_eq_true_eq]
        at hfixed
      exact hfixed.symm.imp_left fun h => h.1.1
    rw [text_numeric hslots hpart htext, hn, number_padded hpadded (by omega) hstop]

/-- A written number of a date and time is told. -/
theorem numeric_written {told : List Slot} {fraction : Nat} (hslots : part.slots? = some slots)
    (htext : Writing.numeric? moment.date (some moment.time) padding part = some text)
    (hfraction : part = .nanosecond → fraction = moment.time.fraction) {rest : List Char}
    (hrest : part.isFixed padding = true ∨ ∀ c ∈ rest.head?, c.isDigit = false) :
    numeric part (Fields.ofSlots told moment fraction) (text ++ rest) =
      .ok (Fields.ofSlots (slots ++ told) moment fraction, rest) := by
  rw [numeric_eq hslots, number_written hslots htext hrest, ok_bind,
    tell_ofSlots hslots hfraction]
  rfl

end Reading
end Calendar
end SchemaForm
