import SchemaForm.Regex.Expr

/-!
# Readers of patterns

The state of reading a pattern: what is left of it, the flags that are on, and
the names of groups so far.  In extended notation blanks and comments between
the parts of a pattern do not count.

Main results:

- Theorem `dropSpace_nil`: nothing is dropped from the empty text.
-/

namespace SchemaForm
namespace Regex

open Text (Charset)

/-- The flags that are on at a place of a pattern. -/
structure Flags where
  ignoreCase : Bool := false
  multiLine : Bool := false
  dotMatchesNewline : Bool := false
  swapGreed : Bool := false
  unicode : Bool := true
  carriageReturn : Bool := false
  extended : Bool := false
deriving DecidableEq, Repr

/-- Turn the flag of a letter on or off. -/
def Flags.set? (flags : Flags) (letter : Char) (value : Bool) : Option Flags :=
  match letter with
  | 'i' => some { flags with ignoreCase := value }
  | 'm' => some { flags with multiLine := value }
  | 's' => some { flags with dotMatchesNewline := value }
  | 'U' => some { flags with swapGreed := value }
  | 'u' => some { flags with unicode := value }
  | 'R' => some { flags with carriageReturn := value }
  | 'x' => some { flags with extended := value }
  | _ => none

/-- What is left to read of a pattern, the flags there and the group names so far. -/
structure Place where
  rest : List Char
  flags : Flags
  names : List (List Char)

/-- A reader of a part of a pattern. -/
abbrev Reader := StateT Place Option

namespace Reader

/-! ## Characters -/

/-- The next character. -/
def peek? : Reader (Option Char) := do
  return (← get).rest.head?

/-- The next character, which must exist. -/
def next : Reader Char := do
  match (← get).rest with
  | [] => failure
  | c :: _ => return c

/-- Pass a character. -/
def pass : Reader Unit :=
  modify fun place => { place with rest := place.rest.tail }

/-- The flags. -/
def flags : Reader Flags := do
  return (← get).flags

/-- Replace the flags. -/
def setFlags (flags : Flags) : Reader Unit :=
  modify fun place => { place with flags := flags }

/-- Pass the given text if it comes next. -/
def passText (text : List Char) : Reader Bool := do
  let place ← get
  if text.isPrefixOf place.rest then
    set { place with rest := place.rest.drop text.length }
    return true
  else
    return false

/-- Drop blanks and comments. -/
def dropSpace : (inComment : Bool) → List Char → List Char
  | _, [] => []
  | true, c :: rest => dropSpace (c != '\n') rest
  | false, c :: rest =>
      if Text.isBlank c then dropSpace false rest
      else if c = '#' then dropSpace true rest
      else c :: rest

/-- Pass blanks and comments in extended notation. -/
def passSpace : Reader Unit :=
  modify fun place =>
    if place.flags.extended then { place with rest := dropSpace false place.rest } else place

/-- Pass a character and the blanks after it. -/
def passWithSpace : Reader Unit := do
  pass
  passSpace

/-- The character after the next one.  In extended notation blanks before it do not count, nor does
one number sign among them. -/
def peekSecond? : Reader (Option Char) := do
  let place ← get
  let rest := place.rest.tail
  if !place.flags.extended then return rest.head?
  let afterBlanks := rest.dropWhile Text.isBlank
  let found :=
    match afterBlanks with
    | '#' :: rest => rest.dropWhile Text.isBlank
    | _ => afterBlanks
  return if found.isEmpty then rest.head? else found.head?

/-- The characters with a property at the front, blanks between them passed over. -/
def takeLetters (isLetter : Char → Bool) : Nat → Reader (List Char)
  | 0 => return []
  | fuel + 1 => do
      match ← peek? with
      | some c =>
          if isLetter c then
            passWithSpace
            return c :: (← takeLetters isLetter fuel)
          else
            return []
      | none => return []

/-- As many letters as there are. -/
def takeAllLetters (isLetter : Char → Bool) : Reader (List Char) := do
  takeLetters isLetter (← get).rest.length

/-! ## Sets under the flags -/

/-- The characters that a class is a part of: outside Unicode they stand for bytes. -/
def domain (flags : Flags) : Charset :=
  if flags.unicode then .everything else .range 0 0xff

/-- Close a set under case if case is ignored. -/
def foldSet (flags : Flags) (set : Charset) : Charset :=
  if flags.ignoreCase then
    Class.closed (if flags.unicode then Class.casePairs else Class.asciiCasePairs) set
  else set

/-- A set closed under case, then negated on demand.  Outside Unicode it may hold nothing beyond
ASCII. -/
def finishSet (negated : Bool) (set : Charset) : Reader Charset := do
  let flags ← flags
  let folded := foldSet flags set
  let finished := if negated then domain flags \ folded else folded
  if !flags.unicode && !finished.isAscii then failure
  return finished

/-- The characters that the dot matches. -/
def anyCharacter : Reader Charset := do
  let flags ← flags
  if !flags.unicode then failure
  if flags.dotMatchesNewline then return .everything
  else if flags.carriageReturn then return (.ofRanges [(0xa, 0xa), (0xd, 0xd)] : Charset).complement
  else return (.single 0xa : Charset).complement

/-- Nothing is dropped from the empty text. -/
theorem dropSpace_nil (inComment : Bool) : dropSpace inComment [] = [] := by
  cases inComment <;> rfl

end Reader
end Regex
end SchemaForm
