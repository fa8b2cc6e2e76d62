import SchemaForm.Proofs.Calendar.Overrun
import SchemaForm.Proofs.Codec.RoundTrip

/-!
# Editing dates under checked settings

The check of the settings lets every pattern without unknown specifiers pass.  What
such a pattern can do for the editing of dates is decided by its items: whether each
date has a text, and, where the items are delimited, whether that text stands for a
date again.  A full year that runs on into digits always leaves a date that is not
read.  The rule of the format accepts a text exactly when it stands for a date.

Main results:

- Theorem `isEdited_of_check`: what checked settings do for dates, with and without a time.
-/

namespace SchemaForm

open Calendar (Date DateTime)
open Calendar.Pattern
  (items isDelimited yearRunsOn writesDate writesDateTime tellsDate tellsDateTime)

namespace Codec

/-- A value can be edited: it has a text, the text stands for a value, and the rule accepts it. -/
def Exchanges (codec : Codec) (rule : Rule) (around : Surroundings) (scalar : Scalar) : Prop :=
  ∃ text, codec.encode (some scalar) = .ok text ∧
    (∃ value, codec.decode text = .ok (some value)) ∧ rule.check around text = none

/-- How the values of a kind are edited under a pattern, by whether its items write and tell every
one of them. -/
structure IsEdited {α : Type} (pattern : String) (codec : Codec) (rule : Rule)
    (around : Surroundings) (scalar : α → Scalar) (writes tells : Bool) : Prop where
  /-- Every value has a text, or none has. -/
  encode (x : α) :
    if writes then ∃ text, codec.encode (some (scalar x)) = .ok text
    else codec.encode (some (scalar x)) = .error (.unwritable pattern)
  /-- The rule accepts the texts that stand for a value, and no others. -/
  check (text : String) :
    rule.check around text = none ↔ ∃ value, codec.decode text = .ok (some value)
  /-- Where the items are delimited, every value can be edited exactly when they write and tell
  every value. -/
  exchanges (hdelimited : isDelimited (items pattern.toList) = true) :
    (∀ x, codec.Exchanges rule around (scalar x)) ↔ writes = true ∧ tells = true
  /-- Where a full year runs on into the digits after it, some value cannot be edited. -/
  exists_not_exchanges (hruns : yearRunsOn (items pattern.toList) = true) :
    ∃ x, ¬codec.Exchanges rule around (scalar x)

variable {pattern : String} {codec : Codec} {rule : Rule} {around : Surroundings}

/-- The text that a pattern wrote is the only one. -/
theorem written_eq_ok_iff {found : Option String} {text : String} :
    written pattern found = .ok text ↔ found = some text := by
  cases found with
  | none => simp only [written, reduceCtorEq]
  | some text => simp only [written, Except.ok.injEq, Option.some.injEq]

/-- Values whose texts a pattern writes and reads are edited by what its items write and tell. -/
theorem isEdited_of_reads {α : Type} {scalar : α → Scalar} {write : α → Option String}
    {reads : String → Prop} {writes tells : Bool} (first : α)
    (hencode : ∀ x, codec.encode (some (scalar x)) = written pattern (write x))
    (hwrite : ∀ x, (write x).isSome = writes)
    (hdecode : ∀ text, (∃ value, codec.decode text = .ok (some value)) ↔ text ≠ "" ∧ reads text)
    (hcheck : ∀ text, rule.check around text = none ↔ text ≠ "" ∧ reads text)
    (hread : isDelimited (items pattern.toList) = true → tells = true →
      ∀ x text, write x = some text → text ≠ "" ∧ reads text)
    (hunread : isDelimited (items pattern.toList) = true → writes = true → tells = false →
      ∃ x text, write x = some text ∧ ¬reads text)
    (hruns : yearRunsOn (items pattern.toList) = true →
      ∀ text, write first = some text → ¬reads text) :
    IsEdited pattern codec rule around scalar writes tells where
  encode x := by
    cases hwrites : writes with
    | true =>
        obtain ⟨text, htext⟩ := Option.isSome_iff_exists.mp ((hwrite x).trans hwrites)
        exact ⟨text, (hencode x).trans (written_eq_ok_iff.mpr htext)⟩
    | false =>
        have hnone := Option.not_isSome_iff_eq_none.mp
          (Bool.not_eq_true _ ▸ (hwrite x).trans hwrites)
        show codec.encode (some (scalar x)) = .error (.unwritable pattern)
        rw [hencode, hnone]
        rfl
  check text := (hcheck text).trans (hdecode text).symm
  exchanges hdelimited := by
    constructor
    · intro hall
      have hwrites : writes = true := by
        obtain ⟨text, htext, -⟩ := hall first
        rw [hencode, written_eq_ok_iff] at htext
        rw [← hwrite first, htext]
        rfl
      refine ⟨hwrites, ?_⟩
      by_contra htells
      rw [Bool.not_eq_true] at htells
      obtain ⟨x, text, htext, hunreadable⟩ := hunread hdelimited hwrites htells
      obtain ⟨found, hfound, hvalue, -⟩ := hall x
      rw [hencode, written_eq_ok_iff, htext] at hfound
      cases hfound
      exact hunreadable ((hdecode text).mp hvalue).2
    · rintro ⟨hwrites, htells⟩ x
      obtain ⟨text, htext⟩ := Option.isSome_iff_exists.mp ((hwrite x).trans hwrites)
      have hreads := hread hdelimited htells x text htext
      refine ⟨text, ?_, (hdecode text).mpr hreads, (hcheck text).mpr hreads⟩
      rw [hencode, written_eq_ok_iff]
      exact htext
  exists_not_exchanges hrunsOn := by
    refine ⟨first, ?_⟩
    rintro ⟨text, htext, hvalue, -⟩
    rw [hencode, written_eq_ok_iff] at htext
    exact hruns hrunsOn text htext ((hdecode text).mp hvalue).2

/-! ## Dates and times -/

/-- A text stands for a value when it is not empty and can be read. -/
theorem exists_decode_iff (codec : Codec) (text : String) :
    (∃ value, codec.decode text = .ok (some value)) ↔
      text ≠ "" ∧ ∃ value, codec.readText text = .ok value := by
  by_cases hempty : text = ""
  · subst hempty
    constructor
    · rintro ⟨value, hvalue⟩
      cases hvalue
    · rintro ⟨hne, -⟩
      exact absurd rfl hne
  · rw [decode, if_neg (by simpa using hempty)]
    cases codec.readText text with
    | ok value => exact iff_of_true ⟨value, rfl⟩ ⟨hempty, value, rfl⟩
    | error reason =>
        simp only [reduceCtorEq, exists_false, and_false]

/-- A text stands for a date when it can be read as one. -/
theorem exists_decode_date_iff (pattern text : String) :
    (∃ value, (Codec.date pattern).decode text = .ok (some value)) ↔
      text ≠ "" ∧ ∃ day, Date.read text pattern = .ok day := by
  rw [exists_decode_iff, readText]
  refine and_congr Iff.rfl ?_
  cases Date.read text pattern with
  | ok day => exact iff_of_true ⟨.date day, rfl⟩ ⟨day, rfl⟩
  | error fault => simp only [reduceCtorEq, exists_false]

/-- A text stands for a date and time when it can be read as one. -/
theorem exists_decode_dateTime_iff (pattern text : String) :
    (∃ value, (Codec.dateTime pattern).decode text = .ok (some value)) ↔
      text ≠ "" ∧ ∃ moment, DateTime.read text pattern = .ok moment := by
  rw [exists_decode_iff, readText]
  refine and_congr Iff.rfl ?_
  cases DateTime.read text pattern with
  | ok moment => exact iff_of_true ⟨.dateTime moment, rfl⟩ ⟨moment, rfl⟩
  | error fault => simp only [reduceCtorEq, exists_false]

/-- A rule that refuses blanks accepts the other texts that pass its test. -/
theorem unlessBlank_false_iff {text : String} {test : Bool} :
    Rule.unlessBlank false text test = true ↔ text ≠ "" ∧ test = true := by
  unfold Rule.unlessBlank
  split
  · rename_i hempty
    simp [String.isEmpty_iff.mp hempty]
  · rename_i hempty
    simp [String.isEmpty_iff.not.mp hempty]

end Codec

namespace Rule

/-- The rule for dates accepts the texts that can be read as one. -/
theorem check_date_eq_none_iff (around : Surroundings) (pattern text : String) :
    (Rule.date pattern false).check around text = none ↔
      text ≠ "" ∧ ∃ day, Date.read text pattern = .ok day := by
  rw [← Result.succeeded_iff, ← Codec.unlessBlank_false_iff, check, Option.map_eq_none_iff]
  simp only [rejection?, ite_eq_left_iff, reduceCtorEq, imp_false, not_not]

/-- The rule for dates with a time accepts the texts that can be read as one. -/
theorem check_dateTime_eq_none_iff (around : Surroundings) (pattern text : String) :
    (Rule.dateTime pattern false).check around text = none ↔
      text ≠ "" ∧ ∃ moment, DateTime.read text pattern = .ok moment := by
  rw [← Result.succeeded_iff, ← Codec.unlessBlank_false_iff, check, Option.map_eq_none_iff]
  simp only [rejection?, ite_eq_left_iff, reduceCtorEq, imp_false, not_not]

end Rule

namespace Settings

/-- What checked settings do for dates, with and without a time: the items of the pattern decide
whether every date has a text; the rule of the format accepts the texts that stand for a date; where
the items are delimited, every date can be edited exactly when the items write and tell every date;
and where a full year runs on into digits, some date cannot. -/
theorem isEdited_of_check {settings : Settings} (h : settings.check = .ok ())
    (around : Surroundings) :
    Codec.IsEdited settings.patterns.date (.date settings.patterns.date)
        (.date settings.patterns.date false) around Scalar.date
        (writesDate (items settings.patterns.date.toList))
        (tellsDate (items settings.patterns.date.toList)) ∧
      Codec.IsEdited settings.patterns.dateTime (.dateTime settings.patterns.dateTime)
        (.dateTime settings.patterns.dateTime false) around Scalar.dateTime
        (writesDateTime (items settings.patterns.dateTime.toList))
        (tellsDateTime (items settings.patterns.dateTime.toList)) := by
  obtain ⟨hdate, hdateTime, -⟩ := settings.check_eq_ok_iff.mp h
  have hknown : ∀ {pattern : String}, Calendar.Pattern.isValid pattern = true →
      .unknown ∉ items pattern.toList := by
    intro pattern hvalid
    simpa [Calendar.Pattern.isValid] using (Bool.and_eq_true_iff.mp hvalid).2
  constructor
  · refine Codec.isEdited_of_reads Calendar.ancient.date (fun day => rfl)
      (Calendar.isSome_write_date (hknown hdate)) (Codec.exists_decode_date_iff _)
      (Rule.check_date_eq_none_iff around _) ?_ ?_ ?_
    · intro hdelimited htells day text htext
      exact Calendar.exists_read_of_write_date hdelimited htells htext
    · intro hdelimited hwrites htells
      obtain ⟨day, text, htext, hunread⟩ :=
        Calendar.exists_unread_date hdelimited (hknown hdate) hwrites htells
      exact ⟨day, text, htext, not_exists.mpr hunread⟩
    · intro hruns text htext
      exact not_exists.mpr (Calendar.read_ancient_ne_ok_date hruns htext)
  · refine Codec.isEdited_of_reads Calendar.ancient (fun moment => rfl)
      (Calendar.isSome_write_dateTime (hknown hdateTime)) (Codec.exists_decode_dateTime_iff _)
      (Rule.check_dateTime_eq_none_iff around _) ?_ ?_ ?_
    · intro hdelimited htells moment text htext
      exact Calendar.exists_read_of_write_dateTime hdelimited htells htext
    · intro hdelimited hwrites htells
      obtain ⟨moment, text, htext, hunread⟩ :=
        Calendar.exists_unread_dateTime hdelimited (hknown hdateTime) hwrites htells
      exact ⟨moment, text, htext, not_exists.mpr hunread⟩
    · intro hruns text htext
      exact not_exists.mpr (Calendar.read_ancient_ne_ok_dateTime hruns htext)

/-- Without separators the year runs on into the month. -/
example : yearRunsOn (items "%Y%m%d".toList) = true := by
  decide +kernel

/-- Settings under which dates are edited with the names of days and months. -/
def named : Settings :=
  { patterns := { date := "%A, %-d %B %Y", dateTime := "%a, %d %b %Y %I:%M:%S%.f %p" } }

/-- Dates with names are edited, as are times to the nanosecond. -/
theorem exchanges_named :
    named.check = .ok () ∧
      (Codec.date named.patterns.date).Exchanges (.date named.patterns.date false)
        (.empty Calendar.ancient) (.date Calendar.ancient.date) ∧
      (Codec.dateTime named.patterns.dateTime).Exchanges (.dateTime named.patterns.dateTime false)
        (.empty Calendar.ancient) (.dateTime ⟨Calendar.ancient.date, Calendar.precise⟩) := by
  have hcheck : named.check = .ok () := by decide +kernel
  obtain ⟨hdate, hdateTime⟩ := isEdited_of_check hcheck (.empty Calendar.ancient)
  refine ⟨hcheck, (hdate.exchanges ?_).mpr ?_ _, (hdateTime.exchanges ?_).mpr ?_ _⟩ <;>
    decide +kernel

/-- Settings under which dates are edited by the day of the month alone. -/
def dayOnly : Settings :=
  { patterns := { date := "%d" } }

/-- The day of the month alone passes the check and is written, but stands for no date. -/
theorem decode_dayOnly :
    dayOnly.check = .ok () ∧
      ∃ day : Date, (day.year, day.month, day.day) = (2024, 2, 9) ∧
        (Codec.date dayOnly.patterns.date).encode (some (.date day)) = .ok "09" ∧
        (Codec.date dayOnly.patterns.date).decode "09" =
          .error (.unreadable "09" "date" (.date .notEnough)) := by
  refine ⟨by decide +kernel, ⟨2024, 2, 9, by decide, by decide, by decide⟩, rfl, ?_, ?_⟩ <;>
    decide +kernel

end Settings
end SchemaForm
