import SchemaForm.Text.Blank

/-!
# Date patterns

A pattern is literal text with specifiers, each a percent sign and a letter.
Some specifiers stand for several items, and a numeric one may be told how to
pad its number.
-/

namespace SchemaForm
namespace Calendar

/-- What a number is filled up with on the left. -/
inductive Padding where
  | nothing
  | zero
  | blank
deriving DecidableEq, Repr

/-- The numbers of a date and a time. -/
inductive NumericPart where
  | year
  | century
  | yearOfCentury
  | isoYear
  | isoYearOfCentury
  | quarter
  | month
  | day
  | weekFromSunday
  | weekFromMonday
  | isoWeek
  | weekdayFromSunday
  | weekdayFromMonday
  | ordinal
  | hour
  | hour12
  | minute
  | second
  | nanosecond
  | timestamp
deriving DecidableEq, Repr

/-- The names in a date and a time. -/
inductive NamePart where
  | shortMonth
  | longMonth
  | shortWeekday
  | longWeekday
  | lowerHalfOfDay
  | upperHalfOfDay
deriving DecidableEq, Repr

/-- How a fraction of a second is written. -/
inductive FractionPart where
  /-- A point and as many digits as needed, in groups of three; nothing for a whole second. -/
  | asNeeded
  /-- A point and a fixed number of digits. -/
  | pointed (digits : Nat)
  /-- A fixed number of digits. -/
  | bare (digits : Nat)
deriving DecidableEq, Repr

/-- The items of a pattern that name a time zone, which no date or time here has. -/
inductive ZonePart where
  | name
  /-- An offset whose parts are set apart by colons: by none, by one between hours and minutes,
  with seconds as well, or hours alone. -/
  | offset (colons : Nat)
  /-- An offset that may also be the letter `Z` or lack its minutes. -/
  | permissiveOffset
  /-- A whole date and time with an offset. -/
  | full
deriving DecidableEq, Repr

/-- An item of a pattern. -/
inductive Item where
  | literal (text : List Char)
  | blank (text : List Char)
  | numeric (part : NumericPart) (padding : Padding)
  | name (part : NamePart)
  | fraction (part : FractionPart)
  | zone (part : ZonePart)
  /-- A specifier that does not exist. -/
  | unknown
deriving DecidableEq, Repr

namespace Pattern

/-- A number padded with zeros. -/
def zeros (part : NumericPart) : Item :=
  .numeric part .zero

/-- A number padded with blanks. -/
def blanks (part : NumericPart) : Item :=
  .numeric part .blank

/-- Month, day and year of the century between slashes. -/
def slashDate : List Item :=
  [zeros .month, .literal ['/'], zeros .day, .literal ['/'], zeros .yearOfCentury]

/-- Hour, minute and second between colons. -/
def clock : List Item :=
  [zeros .hour, .literal [':'], zeros .minute, .literal [':'], zeros .second]

/-- The items of a specifier of one letter. -/
def ofLetter? (c : Char) : Option (List Item) :=
  match c with
  | 'A' => some [.name .longWeekday]
  | 'B' => some [.name .longMonth]
  | 'C' => some [zeros .century]
  | 'D' => some slashDate
  | 'F' => some [zeros .year, .literal ['-'], zeros .month, .literal ['-'], zeros .day]
  | 'G' => some [zeros .isoYear]
  | 'H' => some [zeros .hour]
  | 'I' => some [zeros .hour12]
  | 'M' => some [zeros .minute]
  | 'P' => some [.name .lowerHalfOfDay]
  | 'R' => some [zeros .hour, .literal [':'], zeros .minute]
  | 'S' => some [zeros .second]
  | 'T' => some clock
  | 'U' => some [zeros .weekFromSunday]
  | 'V' => some [zeros .isoWeek]
  | 'W' => some [zeros .weekFromMonday]
  | 'X' => some clock
  | 'Y' => some [zeros .year]
  | 'Z' => some [.zone .name]
  | 'a' => some [.name .shortWeekday]
  | 'b' => some [.name .shortMonth]
  | 'c' =>
      some ([.name .shortWeekday, .blank [' '], .name .shortMonth, .blank [' '], blanks .day,
        .blank [' ']] ++ clock ++ [.blank [' '], zeros .year])
  | 'd' => some [zeros .day]
  | 'e' => some [blanks .day]
  | 'f' => some [zeros .nanosecond]
  | 'g' => some [zeros .isoYearOfCentury]
  | 'h' => some [.name .shortMonth]
  | 'j' => some [zeros .ordinal]
  | 'k' => some [blanks .hour]
  | 'l' => some [blanks .hour12]
  | 'm' => some [zeros .month]
  | 'n' => some [.blank ['\n']]
  | 'p' => some [.name .upperHalfOfDay]
  | 'q' => some [.numeric .quarter .nothing]
  | 'r' =>
      some [zeros .hour12, .literal [':'], zeros .minute, .literal [':'], zeros .second,
        .blank [' '], .name .upperHalfOfDay]
  | 's' => some [.numeric .timestamp .nothing]
  | 't' => some [.blank ['\t']]
  | 'u' => some [.numeric .weekdayFromMonday .nothing]
  | 'v' =>
      some [blanks .day, .literal ['-'], .name .shortMonth, .literal ['-'], zeros .year]
  | 'w' => some [.numeric .weekdayFromSunday .nothing]
  | 'x' => some slashDate
  | 'y' => some [zeros .yearOfCentury]
  | 'z' => some [.zone (.offset 0)]
  | '+' => some [.zone .full]
  | '%' => some [.literal ['%']]
  | _ => none

/-- The padding that a modifier asks for. -/
def ofModifier? (c : Char) : Option Padding :=
  match c with
  | '-' => some .nothing
  | '0' => some .zero
  | '_' => some .blank
  | _ => none

/-- The number of digits that a fraction may be told to have. -/
def digitCount? (c : Char) : Option Nat :=
  match c with
  | '3' => some 3
  | '6' => some 6
  | '9' => some 9
  | _ => none

/-- The items of the specifier at the start of the text after its percent sign, and the rest. -/
def specifier? : List Char → Option (List Item × List Char)
  | [] => none
  | ':' :: ':' :: ':' :: 'z' :: rest => some ([.zone (.offset 3)], rest)
  | ':' :: ':' :: 'z' :: rest => some ([.zone (.offset 2)], rest)
  | ':' :: 'z' :: rest => some ([.zone (.offset 1)], rest)
  | '#' :: 'z' :: rest => some ([.zone .permissiveOffset], rest)
  | '.' :: 'f' :: rest => some ([.fraction .asNeeded], rest)
  | '.' :: c :: 'f' :: rest => (digitCount? c).map fun n => ([.fraction (.pointed n)], rest)
  | c :: rest =>
      match ofModifier? c with
      | some padding =>
          match rest with
          | [] => none
          | letter :: rest =>
              match ofLetter? letter with
              | some [.numeric part _] => some ([.numeric part padding], rest)
              | _ => none
      | none =>
          match digitCount? c, rest with
          | some n, 'f' :: rest => some ([.fraction (.bare n)], rest)
          | some _, _ => none
          | none, rest => (ofLetter? c).map fun found => (found, rest)

/-- Items of a text in which every literal or blank character still is an item of its own. -/
def scan : Nat → List Char → List Item
  | 0, _ => []
  | _, [] => []
  | fuel + 1, '%' :: rest =>
      match specifier? rest with
      | some (found, rest) => mark found ++ scan fuel rest
      | none => [.unknown]
  | fuel + 1, c :: rest =>
      (if Text.isBlank c then .blank [c] else .literal [c]) :: scan fuel rest
where
  /-- An empty literal keeps the literals of a specifier apart from their neighbours. -/
  mark (found : List Item) : List Item :=
    .literal [] :: found ++ [.literal []]

/-- Join neighbouring literals and neighbouring blanks; an empty literal separates. -/
def join : List Item → List Item
  | [] => []
  | item :: rest =>
      match item, join rest with
      | .literal [], joined => .literal [] :: joined
      | .literal (c :: cs), .literal (d :: ds) :: joined => .literal (c :: cs ++ d :: ds) :: joined
      | .blank text, .blank more :: joined => .blank (text ++ more) :: joined
      | item, joined => item :: joined

/-- The items of a pattern. -/
def items (pattern : List Char) : List Item :=
  (join (scan pattern.length pattern)).filter (· ≠ .literal [])

/-- Whether a text is a pattern without unknown specifiers and not empty. -/
def isValid (pattern : String) : Bool :=
  !pattern.isEmpty && !(items pattern.toList).contains .unknown

end Pattern
end Calendar
end SchemaForm
