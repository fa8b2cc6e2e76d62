import SchemaForm.Power
import SchemaForm.Regex.Automaton
import SchemaForm.Regex.Reading.Bracket
import SchemaForm.Text.Property

/-!
# Reading patterns

The notation of regular expressions: sequences and choices of characters,
classes, assertions and groups, with repetitions and changes of flags.  A
pattern that breaks a rule of the notation, nests too deep or needs too large
an automaton has no meaning.

Main results:

- Theorem `fits_of_read?`: the automata for a pattern with a meaning are small enough.
-/

namespace SchemaForm
namespace Regex

/-- A part of a pattern as it is written: its meaning, the nesting of the notation, and whether a
repetition may follow. -/
structure Piece where
  pattern : Pattern
  height : Nat
  isRepeatable : Bool

namespace Piece

/-- A part that is not nested. -/
def ofPattern (pattern : Pattern) : Piece :=
  ⟨pattern, 0, true⟩

/-- A part of no characters, which cannot be repeated. -/
def empty : Piece :=
  ⟨.empty, 0, false⟩

/-- The greatest height of several parts. -/
def greatestHeight (pieces : List Piece) : Nat :=
  (pieces.map height).foldl max 0

/-- A sequence of parts; a single part stands for itself. -/
def inRow : List Piece → Piece
  | [] => empty
  | [piece] => piece
  | pieces => ⟨Pattern.sequence (pieces.map pattern), greatestHeight pieces + 1, true⟩

/-- A choice between parts; a single part stands for itself. -/
def choice : List Piece → Piece
  | [] => empty
  | [piece] => piece
  | pieces => ⟨Pattern.choice (pieces.map pattern), greatestHeight pieces + 1, true⟩

/-- A group, whose place in the text may be kept. -/
def group (isCapture : Bool) (body : Piece) : Piece :=
  ⟨if isCapture then .capture body.pattern else body.pattern, body.height + 1, true⟩

end Piece

namespace Reader

/-! ## Repetitions -/

/-- A number of repetitions, blanks around it passed over. -/
def decimal? : Reader (Option Nat) := do
  modify fun place => { place with rest := place.rest.dropWhile Text.isBlank }
  let digits ← takeAllLetters Char.isDigit
  modify fun place => { place with rest := place.rest.dropWhile Text.isBlank }
  passSpace
  if digits.isEmpty then return none
  let value := digits.foldl (fun value c => 10 * value + (c.toNat - '0'.toNat)) 0
  return if value < twoTo 32 then some value else none

/-- The bounds in braces after an item. -/
def bounds : Reader (Nat × Option Nat) := do
  passWithSpace
  let _ ← next
  match ← decimal? with
  | none => failure
  | some least =>
      let found ←
        if (← next) = ',' then do
          passWithSpace
          if (← next) = '\x7d' then pure (least, none)
          else
            match ← decimal? with
            | none => failure
            | some most => if least ≤ most then pure (least, some most) else failure
        else pure (least, some least)
      if (← next) ≠ '\x7d' then failure
      passWithSpace
      return found

/-- Pass the mark that makes a repetition prefer few matches, and repeat the last part of a sequence
that is kept in reverse. -/
def repeatLast (pieces : List Piece) (least : Nat) (most : Option Nat) : Reader (List Piece) := do
  let isMarked := (← peek?) == some '?'
  if isMarked then pass
  let eager := isMarked == (← flags).swapGreed
  match pieces with
  | last :: rest =>
      if !last.isRepeatable then failure
      let pattern := Pattern.repetition last.pattern least most eager
      return ⟨pattern, last.height + 1, true⟩ :: rest
  | [] => failure

/-! ## Groups -/

/-- Read the letters of flags up to the character that ends them.  The letters seen so far are kept
in reverse. -/
def flagLetters : List Char → List Char → Bool → Flags → Option (Flags × List Char × List Char)
  | [], _, _, _ => none
  | c :: rest, seen, value, flags =>
      if c = ':' ∨ c = ')' then
        if seen.head? = some '-' then none else some (flags, seen, c :: rest)
      else if seen.contains c then none
      else if c = '-' then flagLetters rest (c :: seen) false flags
      else
        match flags.set? c value with
        | none => none
        | some flags => flagLetters rest (c :: seen) value flags

/-- Letters of group names. -/
def isNameLetter (isFirst : Bool) (c : Char) : Bool :=
  c == '_' || Text.isAlphabetic c ||
    (!isFirst && (c == '.' || c == '[' || c == ']' || Text.isNumeric c))

/-- The name of a group, which no other group may have. -/
def groupName : Reader Unit := do
  let place ← get
  let name := place.rest.takeWhile (· != '>')
  let isValid :=
    match name with
    | [] => false
    | first :: rest => isNameLetter true first && rest.all (isNameLetter false)
  if !isValid || place.names.contains name then failure
  match place.rest.dropWhile (· != '>') with
  | [] => failure
  | _ :: rest => set { place with rest := rest, names := name :: place.names }

/-- What the start of a group makes of it. -/
inductive GroupKind where
  | capture
  | plain
  /-- A change of flags that ends where it is written. -/
  | flags
deriving DecidableEq

/-- Read the start of a group after its bracket. -/
def groupStart : Reader GroupKind := do
  passSpace
  let start := (← get).rest
  if ["?=", "?!", "?<=", "?<!"].any fun mark => mark.toList.isPrefixOf start then failure
  if ← passText ['?', 'P', '<'] then
    groupName
    return .capture
  else if ← passText ['?', '<'] then
    groupName
    return .capture
  else if ← passText ['?'] then
    let place ← get
    match flagLetters place.rest [] true place.flags with
    | some (flags, seen, last :: rest) =>
        set { place with flags := flags, rest := rest }
        if last = ':' then return .plain
        else if seen.isEmpty then failure
        else return .flags
    | _ => failure
  else
    return .capture

/-! ## Expressions -/

/-- An assertion under the flags. -/
def assertion (assertion : Look) : Reader Piece := do
  let word := if (← flags).unicode then Class.word else Class.asciiWord
  return .ofPattern (.leaf (.look assertion word))

/-- A part that is neither a group nor repeated. -/
def part : Reader Piece := do
  let c ← next
  let flags ← flags
  match c with
  | '[' =>
      let operand ← bracket
      return ⟨.ofSet operand.set, operand.height, true⟩
  | '\\' =>
      pass
      match ← escape with
      | .character c isByte => return .ofPattern (.ofSet (← singleton c isByte))
      | .set set => return .ofPattern (.ofSet set)
      | .look look => assertion look
  | '.' =>
      pass
      return .ofPattern (.ofSet (← anyCharacter))
  | '^' =>
      pass
      assertion (if !flags.multiLine then .textStart
        else if flags.carriageReturn then .anyLineStart else .lineStart)
  | '$' =>
      pass
      assertion (if !flags.multiLine then .textEnd
        else if flags.carriageReturn then .anyLineEnd else .lineEnd)
  | c =>
      pass
      return .ofPattern (.ofSet (← singleton c false))

/-- A choice between sequences up to a closing bracket or the end.  Branches and parts are kept in
reverse. -/
def choice : Nat → List Piece → List Piece → Reader Piece
  | 0, _, _ => failure
  | fuel + 1, branches, pieces => do
      passSpace
      match ← peek? with
      | none | some ')' =>
          return Piece.choice (Piece.inRow pieces.reverse :: branches).reverse
      | some '|' =>
          pass
          choice fuel (Piece.inRow pieces.reverse :: branches) []
      | some '(' =>
          pass
          let outside ← flags
          let kind ← groupStart
          if kind = .flags then
            choice fuel branches (.empty :: pieces)
          else
            let body ← choice fuel [] []
            if (← next) ≠ ')' then failure
            setFlags outside
            pass
            choice fuel branches (.group (kind == .capture) body :: pieces)
      | some '?' =>
          pass
          choice fuel branches (← repeatLast pieces 0 (some 1))
      | some '*' =>
          pass
          choice fuel branches (← repeatLast pieces 0 none)
      | some '+' =>
          pass
          choice fuel branches (← repeatLast pieces 1 none)
      | some '\x7b' =>
          let (least, most) ← bounds
          choice fuel branches (← repeatLast pieces least most)
      | some _ =>
          let piece ← part
          choice fuel branches (piece :: pieces)

end Reader

/-- The deepest nesting of a pattern. -/
def heightLimit : Nat :=
  250

/-- The expression that a pattern means, if it is within the limits. -/
def read? (pattern : List Char) : Option Pattern :=
  match (Reader.choice (pattern.length + 1) [] []).run ⟨pattern, {}, []⟩ with
  | some (piece, place) =>
      if place.rest.isEmpty && piece.height ≤ heightLimit && piece.pattern.fits then
        some piece.pattern
      else none
  | none => none

/-- A pattern between the start and the end of the text.  It is put into a group as it is
written. -/
def whole (pattern : List Char) : List Char :=
  ['^', '(', '?', ':'] ++ pattern ++ [')', '$']

/-- The automata for a pattern with a meaning are small enough. -/
theorem fits_of_read? {text : List Char} {pattern : Pattern} (h : read? text = some pattern) :
    pattern.fits = true := by
  unfold read? at h
  split at h
  · split at h
    · simp_all
    · simp at h
  · simp at h

end Regex
end SchemaForm
