/-!
# Lines in flow documents

Where lines end matters to a flow document in three ways.  A key stands on the
line of its colon and not far before it, a tab may not begin a line outside
brackets, and a break inside a quoted text is folded.
-/

namespace SchemaForm
namespace Json
namespace Layout

/-- Characters that end a line. -/
def isBreak (c : Char) : Bool :=
  let n := c.toNat
  c == '\n' || c == '\r' || n == 0x85 || n == 0x2028 || n == 0x2029

/-- Blanks within a line. -/
def isBlank (c : Char) : Bool :=
  c == ' ' || c == '\t'

/-! ## Keys and tabs -/

/-- A place in a text: the number of characters and of finished lines before it, the number of open
brackets, and whether a carriage return stands right before it. -/
structure Place where
  index : Nat
  line : Nat
  depth : Nat
  afterReturn : Bool

/-- The place after a character that is no bracket. -/
def Place.after (place : Place) (c : Char) : Place :=
  let endsLine := isBreak c && !(place.afterReturn && c == '\n')
  { place with
    index := place.index + 1
    line := if endsLine then place.line + 1 else place.line
    afterReturn := c == '\r' }

/-- What a character continues. -/
inductive Context where
  /-- Between two tokens, after a quoted text that began at the given place.  Outside brackets a key
  may stand here if it `mayBegin`. -/
  | between (key : Option Place) (mayBegin : Bool)
  | inWord
  | inQuotes (start : Place)
  | afterBackslash (start : Place)

/-- The greatest number of characters from the start of a key to its colon. -/
def keyReach : Nat :=
  1024

/-- Whether a quoted text that began at one place is the key of a colon at another. -/
def isKeyFor (start colon : Place) : Bool :=
  start.line == colon.line && colon.index ≤ start.index + keyReach

/-- Whether the rest of a text keeps the rules on keys and tabs. -/
def isSoundFrom : Context → Place → List Char → Bool
  | _, _, [] => true
  | .afterBackslash start, place, c :: rest => isSoundFrom (.inQuotes start) (place.after c) rest
  | .inQuotes start, place, c :: rest =>
      if c = '"' then isSoundFrom (.between (some start) false) (place.after c) rest
      else if c = '\\' then isSoundFrom (.afterBackslash start) (place.after c) rest
      else isSoundFrom (.inQuotes start) (place.after c) rest
  | context, place, c :: rest =>
      let next := place.after c
      if c = '"' then isSoundFrom (.inQuotes place) next rest
      else if c = '[' ∨ c = '\x7b' then
        isSoundFrom (.between none false) { next with depth := place.depth + 1 } rest
      else if c = ']' ∨ c = '\x7d' then
        isSoundFrom (.between none false) { next with depth := place.depth - 1 } rest
      else if c = ',' then isSoundFrom (.between none false) next rest
      else
        match context with
        | .between key mayBegin =>
            if c = ':' then
              key.all (isKeyFor · place) && isSoundFrom (.between none false) next rest
            else if c = '\t' then
              !(mayBegin && place.depth == 0) && isSoundFrom (.between key mayBegin) next rest
            else if c = ' ' then isSoundFrom (.between key mayBegin) next rest
            else if isBreak c then isSoundFrom (.between key true) next rest
            else isSoundFrom .inWord next rest
        | _ =>
            if c = ':' then isSoundFrom (.between none false) next rest
            else isSoundFrom .inWord next rest

/-- Whether a text keeps the rules on keys and tabs. -/
def isSound (cs : List Char) : Bool :=
  isSoundFrom (.between none true) ⟨0, 0, 0, false⟩ cs

/-! ## Folding -/

/-- Blanks and breaks in a row within a quoted text, later ones first. -/
inductive Pause where
  | blanks (reversed : List Char)
  /-- The first break, the breaks after it, and whether the last character was a break. -/
  | breaks (first : Char) (reversed : List Char) (atLineStart : Bool)

/-- A pause of no characters. -/
def Pause.none : Pause :=
  .blanks []

/-- A blank prolongs a pause.  It is dropped when it follows a break. -/
def Pause.addBlank (c : Char) : Pause → Pause
  | .blanks reversed => .blanks (c :: reversed)
  | .breaks first reversed _ => .breaks first reversed false

/-- A break prolongs a pause.  Blanks before the first break are dropped. -/
def Pause.addBreak (c : Char) : Pause → Pause
  | .blanks _ => .breaks c [] true
  | .breaks first reversed _ => .breaks first (c :: reversed) true

/-- Line and paragraph separators, which folding keeps. -/
def isSeparator (c : Char) : Bool :=
  c.toNat == 0x2028 || c.toNat == 0x2029

/-- A character of a pause as it is written in a folded text: control characters as escapes. -/
def writePaused (c : Char) : List Char :=
  if isSeparator c || c == ' ' then [c]
  else if c = '\t' then ['\\', 't']
  else ['\\', 'n']

/-- What is left of a pause.  A single break becomes a space; of several, all but the first
stay. -/
def Pause.folded : Pause → List Char
  | .blanks reversed => reversed.reverse.flatMap writePaused
  | .breaks first reversed _ =>
      let further := reversed.reverse.flatMap writePaused
      if isSeparator first then first :: further
      else if further.isEmpty then [' ']
      else further

/-- Whether a line begins with a mark that separates documents. -/
def startsWithMark : List Char → Bool
  | a :: b :: c :: rest =>
      ((a == '-' && b == '-' && c == '-') || (a == '.' && b == '.' && c == '.')) &&
        rest.head?.all fun d => isBlank d || isBreak d
  | _ => false

/-- Whether a pause ends where a line begins. -/
def Pause.isAtLineStart : Pause → Bool
  | .blanks _ => false
  | .breaks _ _ atLineStart => atLineStart

/-- Fold the breaks in the rest of a quoted text after a pause.  No line may begin like a mark that
separates documents. -/
def foldFrom? : Pause → List Char → Option (List Char)
  | pause, [] => some pause.folded
  | pause, '\r' :: '\n' :: rest => foldFrom? (pause.addBreak '\n') rest
  | pause, '\\' :: c :: rest =>
      (foldFrom? .none rest).map fun found => pause.folded ++ '\\' :: c :: found
  | pause, c :: rest =>
      if isBreak c then foldFrom? (pause.addBreak c) rest
      else if isBlank c then foldFrom? (pause.addBlank c) rest
      else if pause.isAtLineStart && startsWithMark (c :: rest) then none
      else (foldFrom? .none rest).map fun found => pause.folded ++ c :: found

/-- A quoted text with its breaks folded. -/
def fold? (cs : List Char) : Option (List Char) :=
  foldFrom? .none cs

end Layout
end Json
end SchemaForm
