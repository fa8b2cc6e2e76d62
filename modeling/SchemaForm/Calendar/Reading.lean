import SchemaForm.Calendar.Fields
import SchemaForm.Calendar.Names
import SchemaForm.Calendar.Pattern
import SchemaForm.Power

/-!
# Reading dates under a pattern

The items of a pattern are matched from left to right against a text; each
item consumes a part of it and may tell numbers of the date.  The text has to
be used up by the end of the pattern.

Main results:

- Theorem `readItems_append`: a list of items reads on where the list before it stopped.
-/

namespace SchemaForm
namespace Calendar
namespace Reading

/-- The length of a text in bytes. -/
def byteLength : List Char → Nat
  | [] => 0
  | c :: rest => c.utf8Size + byteLength rest

/-- What an item makes of the numbers told so far and the rest of the text. -/
abbrev Step := Except ReadFault (Fields × List Char)

/-! ## Numbers -/

/-- Digits up to a maximum; the value has to fit 64 signed bits. -/
def takeDigits : Nat → Int → List Char → Except ReadFault (Int × List Char)
  | 0, value, rest => .ok (value, rest)
  | _, value, [] => .ok (value, [])
  | most + 1, value, c :: rest =>
      if c.isDigit then
        let next := value * 10 + (c.toNat - '0'.toNat : Nat)
        if next ≤ 9223372036854775807 then takeDigits most next rest else .error .outOfRange
      else .ok (value, c :: rest)

/-- A number of at least one digit and up to a maximum. -/
def number (most : Nat) (cs : List Char) : Except ReadFault (Int × List Char) :=
  match cs with
  | [] => .error .tooShort
  | c :: _ => if c.isDigit then takeDigits most 0 cs else .error .foreignCharacter

/-- A number of exactly so many digits. -/
def fixedNumber (count : Nat) (cs : List Char) : Except ReadFault (Int × List Char) :=
  if byteLength cs < count then .error .tooShort
  else if (cs.take count).all Char.isDigit then takeDigits count 0 cs
  else .error .foreignCharacter

/-- A number that may carry a sign, and then any number of digits. -/
def signedNumber (most : Nat) (cs : List Char) : Except ReadFault (Int × List Char) :=
  match cs with
  | '-' :: rest => do
      let (n, rest) ← number rest.length rest
      return (-n, rest)
  | '+' :: rest => number rest.length rest
  | cs => number most cs

/-- The most digits of a number that carries no sign. -/
def width : NumericPart → Nat
  | .year | .isoYear => 4
  | .quarter | .weekdayFromSunday | .weekdayFromMonday => 1
  | .ordinal => 3
  | .nanosecond => 9
  | _ => 2

/-- Tell a number that was read. -/
def tell (fields : Fields) (n : Int) : NumericPart → Except ReadFault Fields
  | .year => fields.setYear n
  | .century => do return { fields with year := ← fields.year.setCentury n }
  | .yearOfCentury => do return { fields with year := ← fields.year.setOfCentury n }
  | .isoYear => do return { fields with isoYear := ← fields.isoYear.setFull n }
  | .isoYearOfCentury => do return { fields with isoYear := ← fields.isoYear.setOfCentury n }
  | .quarter => fields.setQuarter n
  | .month => fields.setMonth n
  | .day => fields.setDay n
  | .weekFromSunday => fields.setWeekFromSunday n
  | .weekFromMonday => fields.setWeekFromMonday n
  | .isoWeek => fields.setIsoWeek n
  | .weekdayFromSunday => do fields.setWeekday (((← within 0 6 n) + 6) % 7)
  | .weekdayFromMonday => do fields.setWeekday ((← within 1 7 n) - 1)
  | .ordinal => fields.setOrdinal n
  | .hour => fields.setHour n
  | .hour12 => fields.setHour12 n
  | .minute => fields.setMinute n
  | .second => fields.setSecond n
  | .nanosecond => fields.setNanosecond n
  | .timestamp => fields.setTimestamp n

/-- Read a number after skipping blanks. -/
def numeric (part : NumericPart) (fields : Fields) (cs : List Char) : Step := do
  let cs := Text.trimStart cs
  let (n, rest) ←
    match part with
    | .year | .isoYear => signedNumber (width part) cs
    | .timestamp => number cs.length cs
    | part => number (width part) cs
  return (← tell fields n part, rest)

/-! ## Names -/

/-- The rest of a text after a word in any case. -/
def dropWord? (word cs : List Char) : Option (List Char) :=
  if (cs.take word.length).map Char.toLower = word.map Char.toLower then
    some (cs.drop word.length)
  else none

/-- Index of the name whose first three letters start the text, and what follows them. -/
def shortIndex (names : List String) (cs : List Char) : Except ReadFault (Nat × List Char) :=
  if byteLength cs < 3 then .error .tooShort
  else
    match (List.range names.length).find? fun i => (dropWord? (Names.short names i) cs).isSome with
    | some i => .ok (i, cs.drop 3)
    | none => .error .foreignCharacter

/-- Index of the name that starts the text, in full or by its first three letters. -/
def longIndex (names : List String) (cs : List Char) : Except ReadFault (Nat × List Char) := do
  let (i, rest) ← shortIndex names cs
  return (i, (dropWord? ((Names.long names i).drop 3) rest).getD rest)

/-- Read one of the names of a date or time. -/
def name (part : NamePart) (fields : Fields) (cs : List Char) : Step :=
  match part with
  | .shortMonth => do
      let (i, rest) ← shortIndex Names.months cs
      return (← fields.setMonth (i + 1), rest)
  | .longMonth => do
      let (i, rest) ← longIndex Names.months cs
      return (← fields.setMonth (i + 1), rest)
  | .shortWeekday => do
      let (i, rest) ← shortIndex Names.weekdays cs
      return (← fields.setWeekday i, rest)
  | .longWeekday => do
      let (i, rest) ← longIndex Names.weekdays cs
      return (← fields.setWeekday i, rest)
  | .lowerHalfOfDay | .upperHalfOfDay =>
      if byteLength cs < 2 then .error .tooShort
      else
        match dropWord? ['a', 'm'] cs, dropWord? ['p', 'm'] cs with
        | some rest, _ => do return (← fields.setHalfOfDay false, rest)
        | none, some rest => do return (← fields.setHalfOfDay true, rest)
        | none, none => .error .foreignCharacter

/-! ## Fractions and zones -/

/-- Digits of a fraction as nanoseconds; digits after the ninth are skipped. -/
def nanoseconds (cs : List Char) : Except ReadFault (Int × List Char) := do
  let (n, rest) ← number 9 cs
  let digits := cs.length - rest.length
  return (n * tenTo (9 - digits), rest.dropWhile Char.isDigit)

/-- Read a fraction of a second; one that starts with a point may be missing. -/
def fraction (part : FractionPart) (fields : Fields) (cs : List Char) : Step :=
  match part, cs with
  | .asNeeded, '.' :: rest => do
      let (n, rest) ← nanoseconds rest
      return (← fields.setNanosecond n, rest)
  | .pointed count, '.' :: rest => do
      let (n, rest) ← fixedNumber count rest
      return (← fields.setNanosecond (n * tenTo (9 - count)), rest)
  | .bare count, cs => do
      let (n, rest) ← fixedNumber count cs
      return (← fields.setNanosecond (n * tenTo (9 - count)), rest)
  | _, cs => .ok (fields, cs)

/-- Two digits at the start of a text, as it is needed for offsets. -/
def twoDigits (cs : List Char) : Except ReadFault (Nat × Nat × List Char) :=
  if byteLength cs < 2 then .error .tooShort
  else
    match cs with
    | a :: b :: rest =>
        if a.isDigit ∧ b.isDigit then .ok (a.toNat - '0'.toNat, b.toNat - '0'.toNat, rest)
        else .error .foreignCharacter
    | _ => .error .foreignCharacter

/-- Read an offset from universal time, in minutes: a sign, hours, and minutes after optional
colons and blanks.  The letter `Z` may stand for no offset, and the minutes may be missing, where
that is allowed. -/
def offset (zulu missingMinutes : Bool) (fields : Fields) (cs : List Char) : Step :=
  match cs with
  | [] => .error .tooShort
  | c :: rest =>
      if zulu ∧ (c = 'Z' ∨ c = 'z') then do
        return (← fields.setOffset 0, rest)
      else if c = '+' ∨ c = '-' ∨ c = Char.ofNat 0x2212 then do
        let (tens, ones, rest) ← twoDigits rest
        let hours : Int := tens * 10 + ones
        let sign : Int := if c = '+' then 1 else -1
        let rest := rest.dropWhile fun c => c == ':' || Text.isBlank c
        if byteLength rest < 2 then
          if missingMinutes ∧ rest = [] then
            return (← fields.setOffset (sign * hours * 60), rest)
          else throw .tooShort
        else
          let (tens, ones, rest) ← twoDigits rest
          if tens < 6 then
            return (← fields.setOffset (sign * (hours * 60 + (tens * 10 + ones : Nat))), rest)
          else throw .outOfRange
      else .error .foreignCharacter

/-- Read an item that is neither a whole date nor an unknown specifier. -/
def simpleItem (item : Item) (fields : Fields) (cs : List Char) : Step :=
  match item with
  | .literal text =>
      if byteLength cs < byteLength text then .error .tooShort
      else if text.isPrefixOf cs then .ok (fields, cs.drop text.length)
      else .error .foreignCharacter
  | .blank _ => .ok (fields, Text.trimStart cs)
  | .numeric part _ => numeric part fields cs
  | .name part => name part fields cs
  | .fraction part => fraction part fields cs
  | .zone .name => .ok (fields, cs.dropWhile fun c => !Text.isBlank c)
  | .zone (.offset _) => offset false false fields (Text.trimStart cs)
  | .zone .permissiveOffset => offset true true fields (Text.trimStart cs)
  | .zone .full => .error .badPattern
  | .unknown => .error .badPattern

/-- Read simple items in turn. -/
def simpleItems : List Item → Fields → List Char → Step
  | [], fields, cs => .ok (fields, cs)
  | item :: rest, fields, cs => do
      let (fields, cs) ← simpleItem item fields cs
      simpleItems rest fields cs

/-- Year, month and day between hyphens, with optional blanks before the hyphens. -/
def dayItems : List Item :=
  [Pattern.zeros .year, .blank [], .literal ['-'], Pattern.zeros .month, .blank [],
    .literal ['-'], Pattern.zeros .day]

/-- Hour, minute and second between colons, with optional blanks before the colons and an optional
fraction. -/
def clockItems : List Item :=
  [Pattern.zeros .hour, .blank [], .literal [':'], Pattern.zeros .minute, .blank [],
    .literal [':'], Pattern.zeros .second, .fraction .asNeeded, .blank []]

/-- Read a whole date and time with an offset, which may also be `Z` or `UTC`. -/
def full (fields : Fields) (cs : List Char) : Step := do
  let (fields, cs) ← simpleItems dayItems fields cs
  match cs with
  | [] => throw .tooShort
  | c :: rest =>
      if c = 'T' ∨ c = 't' ∨ c = ' ' then do
        let (fields, rest) ← simpleItems clockItems fields rest
        match dropWord? ['u', 't', 'c'] rest with
        | some rest => return (← fields.setOffset 0, rest)
        | none => offset true false fields rest
      else throw .foreignCharacter

/-- Read an item. -/
def item (item : Item) (fields : Fields) (cs : List Char) : Step :=
  match item with
  | .zone .full => full fields cs
  | item => simpleItem item fields cs

end Reading

/-- Read items in turn. -/
def readItems : List Item → Fields → List Char → Reading.Step
  | [], fields, cs => .ok (fields, cs)
  | item :: rest, fields, cs => do
      let (fields, cs) ← Reading.item item fields cs
      readItems rest fields cs

/-- A list of items reads on where the list before it stopped. -/
theorem readItems_append (first second : List Item) (fields : Fields) (cs : List Char) :
    readItems (first ++ second) fields cs =
      (readItems first fields cs).bind fun found => readItems second found.1 found.2 := by
  induction first generalizing fields cs with
  | nil => rfl
  | cons item rest ih =>
      simp only [List.cons_append, readItems, bind, Except.bind]
      cases Reading.item item fields cs with
      | error fault => rfl
      | ok found => exact ih found.1 found.2

/-- The numbers that a whole text tells under a list of items. -/
def readFields (items : List Item) (text : String) : Except ReadFault Fields := do
  let (fields, rest) ← readItems items {} text.toList
  if rest.isEmpty then return fields else throw .tooLong

/-- The date that a text is under a pattern. -/
def Date.read (text pattern : String) : Except ReadFault Date := do
  (← readFields (Pattern.items pattern.toList) text).toDate

/-- The date and time that a text is under a pattern. -/
def DateTime.read (text pattern : String) : Except ReadFault DateTime := do
  (← readFields (Pattern.items pattern.toList) text).toDateTime

end Calendar
end SchemaForm
