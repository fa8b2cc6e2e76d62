import SchemaForm.Calendar.Reading
import SchemaForm.Calendar.Writing

/-!
# Dates in documents

Documents hold dates and times in the extended form of ISO 8601.  Reading is
lenient about blanks between the parts and about leading zeros.
-/

namespace SchemaForm
namespace Calendar
namespace Iso

/-- The pattern under which documents hold dates. -/
def datePattern : String := "%Y-%m-%d"

/-- The pattern under which documents hold dates with a time. -/
def dateTimePattern : String := "%Y-%m-%dT%H:%M:%S"

/-- The parts of a date that is read from a document. -/
def dateItems : List Item :=
  [Pattern.zeros .year, .blank [], .literal ['-'], Pattern.zeros .month, .blank [],
    .literal ['-'], Pattern.zeros .day, .blank []]

/-- The parts of a date and time that is read from a document. -/
def dateTimeItems : List Item :=
  dateItems ++
    [.literal ['T'], Pattern.zeros .hour, .blank [], .literal [':'], Pattern.zeros .minute,
      .blank [], .literal [':'], Pattern.zeros .second, .fraction .asNeeded, .blank []]

/-- Read a date of a document. -/
def readDate (text : String) : Except ReadFault Date := do
  (← readFields dateItems text).toDate

/-- Read a date and time of a document. -/
def readDateTime (text : String) : Except ReadFault DateTime := do
  (← readFields dateTimeItems text).toDateTime

/-! ## Exact text -/

/-- A date in full; years of more than four digits carry their sign. -/
def dateText (date : Date) : String :=
  String.ofList <|
    Writing.yearText .zero date.year ++ '-' :: Writing.two .zero date.month ++
      '-' :: Writing.two .zero date.day

/-- A date and time in full to the second. -/
def secondText (moment : DateTime) : String :=
  let time := moment.time
  dateText moment.date ++ String.ofList
    ('T' :: Writing.two .zero time.hour ++ ':' :: Writing.two .zero time.minute ++
      ':' :: Writing.two .zero time.writtenSecond)

/-- A date and time in full, with a fraction of three, six or nine digits when there is one. -/
def dateTimeText (moment : DateTime) : String :=
  secondText moment ++ String.ofList (Writing.fractionText moment.time .asNeeded)

end Iso

/-! ## Examples for messages -/

/-- The text of an item that names a time zone, for a time in universal time. -/
def ZonePart.universalText? (moment : DateTime) : ZonePart → Option String
  | .name => some "+00:00"
  | .offset 0 => some "+0000"
  | .offset 1 => some "+00:00"
  | .offset 2 => some "+00:00:00"
  | .offset _ => some "+00"
  | .permissiveOffset => none
  | .full => some (Iso.dateTimeText moment ++ "+00:00")

/-- The text of a time in universal time under a pattern, or the pattern itself if it writes
nothing. -/
def exampleText (moment : DateTime) (pattern : String) : String :=
  let items := (Pattern.items pattern.toList).map fun item =>
    match item with
    | .zone part =>
        match part.universalText? moment with
        | some text => .literal text.toList
        | none => .unknown
    | item => item
  match writeItems? moment.date (some moment.time) items with
  | some text => String.ofList text
  | none => pattern

end Calendar
end SchemaForm
