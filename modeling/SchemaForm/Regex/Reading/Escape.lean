import SchemaForm.Regex.Property.Name
import SchemaForm.Regex.Reading.Basic

/-!
# Escapes

What follows a backslash in a pattern: a character that has a meaning of its
own, the number of a character, a class with a letter, a property by name, or
an assertion.
-/

namespace SchemaForm
namespace Regex
namespace Reader

open Text (Charset)

/-- What an escape stands for.  A character may be written as a byte, with two hexadecimal
digits. -/
inductive Escape where
  | character (c : Char) (isByte : Bool)
  | set (set : Charset)
  | look (assertion : Look)

/-- The set of one character outside brackets.  Outside Unicode no byte beyond ASCII stands for
itself. -/
def singleton (c : Char) (isByte : Bool) : Reader Charset := do
  let flags ← flags
  if !flags.unicode && isByte && c.toNat ≥ 0x80 then failure
  return foldSet flags (.single c.toNat)

/-- Characters with a meaning of their own in patterns. -/
def isMeta (c : Char) : Bool :=
  c == '\\' || ".+*?()|[]\x7b\x7d^$#&-~".toList.contains c

/-- Characters that may follow a backslash and then stand for themselves. -/
def isEscapable (c : Char) : Bool :=
  isMeta c || (c.toNat < 128 && !c.isAlphanum && c != '<' && c != '>')

/-- The value of a hexadecimal digit. -/
def hexValue? (c : Char) : Option Nat :=
  if c.isDigit then some (c.toNat - '0'.toNat)
  else if 'a' ≤ c && c ≤ 'f' then some (c.toNat - 'a'.toNat + 10)
  else if 'A' ≤ c && c ≤ 'F' then some (c.toNat - 'A'.toNat + 10)
  else none

/-- The character with a number in hexadecimal digits. -/
def hexCharacter (digits : List Char) : Reader Char := do
  let value := digits.foldl (fun value c => 16 * value + (hexValue? c).getD 0) 0
  if digits.isEmpty then failure
  if value.isValidChar then return Char.ofNat value else failure

/-- A fixed number of hexadecimal digits. -/
def hexDigits : Nat → Reader (List Char)
  | 0 => return []
  | count + 1 => do
      let c ← next
      if (hexValue? c).isNone then failure
      passWithSpace
      return c :: (← hexDigits count)

/-- The number of a character after its letter `x`, `u` or `U`, and whether it is a byte. -/
def hexEscape (count : Nat) : Reader Escape := do
  passSpace
  if (← next) = '\x7b' then
    passWithSpace
    let digits ← takeAllLetters fun c => (hexValue? c).isSome
    if (← next) ≠ '\x7d' then failure
    passWithSpace
    return .character (← hexCharacter digits) false
  else
    return .character (← hexCharacter (← hexDigits count)) (count == 2)

/-- Split a text at the first occurrence of another. -/
def splitAt? (mark : List Char) : List Char → Option (List Char × List Char)
  | [] => none
  | c :: rest =>
      if mark.isPrefixOf (c :: rest) then some ([], (c :: rest).drop mark.length)
      else (splitAt? mark rest).map fun found => (c :: found.1, found.2)

/-- The set of a named property and whether the name negates it. -/
def namedSet (name : List Char) : Option (Charset × Bool) :=
  match splitAt? ['!', '='] name with
  | some (name, value) => (Property.valued? name value).map (·, true)
  | none =>
      match (splitAt? [':'] name).or (splitAt? ['='] name) with
      | some (name, value) => (Property.valued? name value).map (·, false)
      | none => (Property.named? name).map (·, false)

/-- A property after the letter `p` or `P`. -/
def propertyEscape (negated : Bool) : Reader Charset := do
  passSpace
  let c ← next
  let name ←
    if c = '\x7b' then do
      passWithSpace
      let name ← takeAllLetters (· != '\x7d')
      if (← peek?).isNone then failure
      pass
      pure name
    else if c = '\\' then failure
    else do
      passWithSpace
      pure [c]
  if !(← flags).unicode then failure
  match namedSet name with
  | none => failure
  | some (set, inverted) => finishSet (negated != inverted) (.everything ∩ set)

/-- A class with a letter. -/
def letterClass (inUnicode inAscii : Charset) (negated : Bool) : Reader Charset := do
  let flags ← flags
  let set := if flags.unicode then inUnicode else inAscii
  if negated then
    if !flags.unicode then failure
    return set.complement
  else
    return set

/-- The assertion after `\b`, which may be named in braces. -/
def wordAssertion : Reader Look := do
  if (← peek?) ≠ some '\x7b' then return .wordBoundary
  let isNameLetter (c : Char) := c.isAlpha || c == '-'
  let start ← get
  passWithSpace
  if !isNameLetter (← next) then
    set start
    return .wordBoundary
  let name ← takeAllLetters isNameLetter
  if (← next) ≠ '\x7d' then failure
  pass
  match String.ofList name with
  | "start" => return .wordStart
  | "end" => return .wordEnd
  | "start-half" => return .noWordBefore
  | "end-half" => return .noWordAfter
  | _ => failure

/-- What follows a backslash. -/
def escape : Reader Escape := do
  let c ← next
  pass
  match c with
  | 'x' => hexEscape 2
  | 'u' => hexEscape 4
  | 'U' => hexEscape 8
  | 'p' => return .set (← propertyEscape false)
  | 'P' => return .set (← propertyEscape true)
  | 'd' => return .set (← letterClass Class.decimal Class.asciiDecimal false)
  | 'D' => return .set (← letterClass Class.decimal Class.asciiDecimal true)
  | 's' => return .set (← letterClass Class.blank Class.asciiBlank false)
  | 'S' => return .set (← letterClass Class.blank Class.asciiBlank true)
  | 'w' => return .set (← letterClass Class.word Class.asciiWord false)
  | 'W' => return .set (← letterClass Class.word Class.asciiWord true)
  | 'a' => return .character '\x07' false
  | 'f' => return .character '\x0c' false
  | 't' => return .character '\t' false
  | 'n' => return .character '\n' false
  | 'r' => return .character '\r' false
  | 'v' => return .character '\x0b' false
  | 'A' => return .look .textStart
  | 'z' => return .look .textEnd
  | 'b' => return .look (← wordAssertion)
  | 'B' => return .look .noWordBoundary
  | '<' => return .look .wordStart
  | '>' => return .look .wordEnd
  | c => if isEscapable c then return .character c false else failure

end Reader
end Regex
end SchemaForm
