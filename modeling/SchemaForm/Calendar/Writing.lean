import SchemaForm.Calendar.DateTime
import SchemaForm.Calendar.Names
import SchemaForm.Calendar.Pattern
import SchemaForm.Power

/-!
# Writing dates under a pattern

The text of a date, with or without a time of day, under a pattern.  A pattern
cannot be written when it has an unknown specifier, asks a date for its time
of day or asks for a time zone.

Main results:

- Theorem `writeItems_append`: the text of two lists of items is the two texts in turn.
-/

namespace SchemaForm
namespace Calendar

namespace Writing

/-- Decimal digits of a natural number. -/
def digits (n : Nat) : List Char :=
  Nat.toDigits 10 n

/-- Fill up a text on the left. -/
def fill (width : Nat) (c : Char) (text : List Char) : List Char :=
  List.replicate (width - text.length) c ++ text

/-- A number of two digits. -/
def two (padding : Padding) (n : Nat) : List Char :=
  match padding with
  | .nothing => digits n
  | .zero => fill 2 '0' (digits n)
  | .blank => fill 2 ' ' (digits n)

/-- A signed number of at least `width` digits; a sign that is always written takes a place of its
own. -/
def signed (width : Nat) (padding : Padding) (alwaysSign : Bool) (n : Int) : List Char :=
  let sign := if n < 0 then ['-'] else if alwaysSign then ['+'] else []
  let size := digits n.natAbs
  let width := if alwaysSign then width + 1 else width
  match padding with
  | .nothing => sign ++ size
  | .zero => sign ++ fill (width - sign.length) '0' size
  | .blank => fill width ' ' (sign ++ size)

/-- A year; years outside 0 to 9999 carry their sign. -/
def yearText (padding : Padding) (year : Int) : List Char :=
  signed 4 padding (year < 0 || 9999 < year) year

/-- The number of centuries in one byte, whose tens may go beyond the digit nine. -/
def centuryText (padding : Padding) (year : Int) : List Char :=
  let n := ((year / 100) % 256).toNat
  let tens :=
    match n / 10, padding with
    | 0, .nothing => []
    | 0, .blank => [' ']
    | tens, _ => [Char.ofNat ('0'.toNat + tens)]
  tens ++ digits (n % 10)

/-- The text of a number of a date and perhaps a time. -/
def numeric? (date : Date) (time : Option Time) (padding : Padding) :
    NumericPart → Option (List Char)
  | .year => some (yearText padding date.year)
  | .century => some (centuryText padding date.year)
  | .yearOfCentury => some (two padding (date.year % 100).toNat)
  | .isoYear => some (yearText padding date.isoWeek.1)
  | .isoYearOfCentury => some (two padding (date.isoWeek.1 % 100).toNat)
  | .quarter => some (digits date.quarter)
  | .month => some (two padding date.month)
  | .day => some (two padding date.day)
  | .weekFromSunday => some (two padding (date.weekFrom 6))
  | .weekFromMonday => some (two padding (date.weekFrom 0))
  | .isoWeek => some (two padding date.isoWeek.2)
  | .weekdayFromSunday => some (digits ((date.weekday + 1) % 7))
  | .weekdayFromMonday => some (digits (date.weekday + 1))
  | .ordinal => some (signed 3 padding false date.ordinal)
  | .hour => time.map fun t => two padding t.hour
  | .hour12 => time.map fun t => two padding t.hour12
  | .minute => time.map fun t => two padding t.minute
  | .second => time.map fun t => two padding t.writtenSecond
  | .nanosecond => time.map fun t => signed 9 padding false t.fraction
  | .timestamp => time.map fun t => signed 9 padding false (DateTime.timestamp ⟨date, t⟩)

/-- The text of a name of a date and perhaps a time. -/
def name? (date : Date) (time : Option Time) : NamePart → Option (List Char)
  | .shortMonth => some (Names.short Names.months (date.month - 1))
  | .longMonth => some (Names.long Names.months (date.month - 1))
  | .shortWeekday => some (Names.short Names.weekdays date.weekday)
  | .longWeekday => some (Names.long Names.weekdays date.weekday)
  | .lowerHalfOfDay => time.map fun t => if t.isAfternoon then ['p', 'm'] else ['a', 'm']
  | .upperHalfOfDay => time.map fun t => if t.isAfternoon then ['P', 'M'] else ['A', 'M']

/-- The text of a fraction of a second. -/
def fractionText (time : Time) : FractionPart → List Char
  | .asNeeded =>
      if time.fraction = 0 then []
      else if time.fraction % 1000000 = 0 then
        '.' :: fill 3 '0' (digits (time.fraction / 1000000))
      else if time.fraction % 1000 = 0 then '.' :: fill 6 '0' (digits (time.fraction / 1000))
      else '.' :: fill 9 '0' (digits time.fraction)
  | .pointed n => '.' :: fill n '0' (digits (time.fraction / tenTo (9 - n)))
  | .bare n => fill n '0' (digits (time.fraction / tenTo (9 - n)))

/-- The text of an item. -/
def item? (date : Date) (time : Option Time) : Item → Option (List Char)
  | .literal text => some text
  | .blank text => some text
  | .numeric part padding => numeric? date time padding part
  | .name part => name? date time part
  | .fraction part => time.map fun t => fractionText t part
  | .zone _ => none
  | .unknown => none

end Writing

/-- The text of a list of items. -/
def writeItems? (date : Date) (time : Option Time) : List Item → Option (List Char)
  | [] => some []
  | item :: rest =>
      match Writing.item? date time item, writeItems? date time rest with
      | some text, some more => some (text ++ more)
      | _, _ => none

/-- The text of two lists of items is the two texts in turn. -/
theorem writeItems_append (date : Date) (time : Option Time) {first second : List Item}
    {text more : List Char} (h : writeItems? date time first = some text)
    (h' : writeItems? date time second = some more) :
    writeItems? date time (first ++ second) = some (text ++ more) := by
  induction first generalizing text with
  | nil =>
      simp only [writeItems?, Option.some.injEq] at h
      subst h
      simpa using h'
  | cons item rest ih =>
      simp only [writeItems?] at h
      split at h
      · rename_i one others hone hothers
        cases h
        simp [writeItems?, hone, ih hothers]
      · cases h

/-- The text of a date under a pattern. -/
def Date.write? (date : Date) (pattern : String) : Option String :=
  (writeItems? date none (Pattern.items pattern.toList)).map String.ofList

/-- The text of a date and time under a pattern. -/
def DateTime.write? (moment : DateTime) (pattern : String) : Option String :=
  (writeItems? moment.date (some moment.time) (Pattern.items pattern.toList)).map String.ofList

end Calendar
end SchemaForm
