import SchemaForm.Proofs.Codec.RoundTrip
import SchemaForm.Proofs.Field.Settled

/-!
# Dates under the default settings

With the default settings every date that the calendar has comes back as it was, from
the text in which it is edited and from the data in which it is stored.  The year takes
as many digits as it needs and carries its sign where it has more than four of them or
lies before year zero.  A time is edited to the minute and stored to the second.  The
second 60 tells a leap second; one after another second than 59 has the text of the
second that follows it, and comes back as that.

Main results:

- Theorem `decode_of_readText`: a text that is not empty stands for the value that is read.
- Theorem `returns_date`, Theorem `returns_dateTime`: what becomes of a date, and of a time on it.
- Theorem `Settings.returns_default`: both together, for every date and every time.
- Theorem `Settings.ofNative_strayMoment`: a leap second after another second than 59 is lost.
-/

namespace SchemaForm

open Calendar (Date DateTime)

namespace Codec

/-- What becomes of a value in a field of a type and a format.  It has a text that stands for
`edited`, and the rule of the format accepts this text whether blanks are allowed or not.  Its data
stands for `stored`. -/
structure Returns (settings : Settings) (type format : String) (scalar edited stored : Scalar) :
    Prop where
  text : ∃ text, (ofField type (some format) settings.patterns).encode (some scalar) = .ok text ∧
    (ofField type (some format) settings.patterns).decode text = .ok (some edited) ∧
      ∀ around blankAllowed, ∃ rule,
        Rule.ofFormat? format settings.patterns blankAllowed = some rule ∧
          rule.check around text = none
  native (name : String) :
    (ofField type (some format) settings.patterns).ofNative name scalar.toNative =
      .ok (some stored)

/-- A text that is not empty stands for the value that is read. -/
theorem decode_of_readText {codec : Codec} {text : String} {scalar : Scalar} (htext : text ≠ "")
    (h : codec.readText text = .ok scalar) : codec.decode text = .ok (some scalar) := by
  have hempty : text.isEmpty = false := by simpa using htext
  simp [decode, hempty, h]

/-- Every date comes back, as a text and as data. -/
theorem returns_date (type : String) (day : Date) :
    Returns {} type "date" (.date day) (.date day) (.date day) where
  text := by
    have htext := Field.ofList_pointedText_ne_empty day []
    rw [List.append_nil] at htext
    have hread := Calendar.read_pointedText day
    refine ⟨String.ofList (Calendar.pointedText day), ?_, ?_, fun around blankAllowed => ?_⟩
    · exact (encode_date _ day).trans (by rw [Calendar.write_date, written])
    · have hvalue : readText (.date (DatePatterns.date {}))
          (String.ofList (Calendar.pointedText day)) = .ok (.date day) := by
        simp only [readText, hread]
      exact decode_of_readText htext hvalue
    · exact ⟨_, rfl, Field.check_date_of_read htext hread⟩
  native name := by
    show ofNative (.date (DatePatterns.date {})) name (.string (Calendar.Iso.dateText day)) = _
    simp only [ofNative, Calendar.Iso.readDate_dateText]

/-- Every time on a date comes back to the minute as a text, and to the second as data. -/
theorem returns_dateTime (type : String) (moment : DateTime) :
    Returns {} type "date-time" (.dateTime moment)
      (.dateTime ⟨moment.date, moment.time.truncate⟩)
      (.dateTime ⟨moment.date, moment.time.toSecond⟩) where
  text := by
    have htext := Field.ofList_pointedText_ne_empty moment.date (Calendar.clockText moment.time)
    have hread := Calendar.read_clockText moment
    refine ⟨String.ofList (Calendar.pointedText moment.date ++ Calendar.clockText moment.time),
      ?_, ?_, fun around blankAllowed => ?_⟩
    · exact (encode_dateTime _ moment).trans (by rw [Calendar.write_dateTime, written])
    · have hvalue : readText (.dateTime (DatePatterns.dateTime {}))
          (String.ofList (Calendar.pointedText moment.date ++ Calendar.clockText moment.time)) =
            .ok (.dateTime ⟨moment.date, moment.time.truncate⟩) := by
        simp only [readText, hread]
      exact decode_of_readText htext hvalue
    · exact ⟨_, rfl, Field.check_dateTime_of_read htext hread⟩
  native name := by
    show ofNative (.dateTime (DatePatterns.dateTime {})) name
      (.string (Calendar.Iso.secondText moment)) = _
    simp only [ofNative, Calendar.Iso.readDateTime_secondText]

end Codec

namespace Settings

/-- With the default settings every date comes back as it was from its text and from its data.  A
time on it comes back from its text as the start of its minute, and from its data to the second.
This is the time without its fraction, so that a leap second stays one, but for a leap second after
another second than 59, which becomes the next second. -/
theorem returns_default (type : String) :
    (∀ day : Date, Codec.Returns {} type "date" (.date day) (.date day) (.date day)) ∧
      ∀ moment : DateTime,
        Codec.Returns {} type "date-time" (.dateTime moment)
            (.dateTime ⟨moment.date, moment.time.truncate⟩)
            (.dateTime ⟨moment.date, moment.time.toSecond⟩) ∧
          moment.time.toSecond.fraction = 0 ∧
            moment.time.toSecond.writtenSecond = moment.time.writtenSecond ∧
            moment.time.toSecond.isLeapSecond =
              (moment.time.isLeapSecond && moment.time.second == 59) ∧
            (moment.time.toSecond = moment.time.withoutFraction ↔
              moment.time.isLeapSecond = false ∨ moment.time.second = 59) :=
  ⟨Codec.returns_date type, fun moment =>
    ⟨Codec.returns_dateTime type moment, moment.time.fraction_toSecond,
      moment.time.writtenSecond_toSecond, moment.time.isLeapSecond_toSecond,
      moment.time.toSecond_eq_withoutFraction_iff⟩⟩

/-- A moment in a leap second after the second 33. -/
def strayMoment : DateTime where
  date := ⟨2024, 2, 29, by decide, by decide, by decide⟩
  time := ⟨21, 47, 33, 1330000000, by decide, by decide, by decide, by decide⟩

/-- A leap second after another second than 59 does not stay one.  Its data stands for the second
34, which is not the moment without its fraction. -/
theorem ofNative_strayMoment :
    ∃ next : Calendar.Time,
      (Codec.ofField "string" (some "date-time") ({} : Settings).patterns).ofNative "at"
          (Scalar.dateTime strayMoment).toNative =
        .ok (some (.dateTime ⟨strayMoment.date, next⟩)) ∧
      next.second = 34 ∧ next.isLeapSecond = false ∧
        next ≠ strayMoment.time.withoutFraction := by
  have hnative := (Codec.returns_dateTime "string" strayMoment).native "at"
  exact ⟨strayMoment.time.toSecond, hnative, rfl, rfl, by decide⟩

end Settings
end SchemaForm
