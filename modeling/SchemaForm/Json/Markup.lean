import SchemaForm.Text.Integer

/-!
# Brackets, words and quoted texts

The shape that a JSON document has before its words and quoted texts are given
a meaning.  A word is a run of characters that are neither blank nor special,
and a quoted text is kept as it is written between its quotes, so that
documents with different rules for scalars share one reader.
-/

namespace SchemaForm
namespace Json

/-- A document whose words and quoted texts are not yet understood. -/
inductive Markup where
  | word (text : List Char)
  | quoted (text : List Char)
  | sequence (items : List Markup)
  | mapping (entries : List (List Char × Markup))
deriving Inhabited

namespace Markup

/-- The tokens of a document. -/
inductive Token where
  | word (text : List Char)
  | quoted (text : List Char)
  | special (c : Char)
deriving DecidableEq

/-- Blank characters between tokens. -/
def isSpace (c : Char) : Bool :=
  c == ' ' || c == '\t' || c == '\n' || c == '\r'

/-- Brackets and separators. -/
def isSpecial (c : Char) : Bool :=
  c == '[' || c == ']' || c == '\x7b' || c == '\x7d' || c == ',' || c == ':'

/-- The state of a lexer between two characters, with the text read so far in reverse. -/
inductive LexState where
  | between
  | inWord (reversed : List Char)
  | inQuotes (reversed : List Char)
  | afterBackslash (reversed : List Char)

/-- Tokens of a text, given the state before it.  A quoted text that never ends gives nothing. -/
def tokens? : LexState → List Char → Option (List Token)
  | .between, [] => some []
  | .between, c :: rest =>
      if isSpace c then tokens? .between rest
      else if isSpecial c then (tokens? .between rest).map (Token.special c :: ·)
      else if c = '"' then tokens? (.inQuotes []) rest
      else tokens? (.inWord [c]) rest
  | .inWord reversed, [] => some [.word reversed.reverse]
  | .inWord reversed, c :: rest =>
      if isSpace c then (tokens? .between rest).map (Token.word reversed.reverse :: ·)
      else if isSpecial c then
        (tokens? .between rest).map fun found => .word reversed.reverse :: .special c :: found
      else if c = '"' then
        (tokens? (.inQuotes []) rest).map (Token.word reversed.reverse :: ·)
      else tokens? (.inWord (c :: reversed)) rest
  | .inQuotes _, [] => none
  | .inQuotes reversed, c :: rest =>
      if c = '"' then (tokens? .between rest).map (Token.quoted reversed.reverse :: ·)
      else if c = '\\' then tokens? (.afterBackslash (c :: reversed)) rest
      else tokens? (.inQuotes (c :: reversed)) rest
  | .afterBackslash _, [] => none
  | .afterBackslash reversed, c :: rest => tokens? (.inQuotes (c :: reversed)) rest

mutual

/-- One value at the start of the tokens.  `fuel` bounds the number of steps and `depth` that of
open brackets. -/
def value? : Nat → Nat → List Token → Option (Markup × List Token)
  | 0, _, _ => none
  | _, _, [] => none
  | _, _, .word text :: rest => some (.word text, rest)
  | _, _, .quoted text :: rest => some (.quoted text, rest)
  | fuel + 1, depth, .special c :: rest =>
      match depth with
      | 0 => none
      | depth + 1 =>
          if c = '[' then
            match rest with
            | .special ']' :: rest => some (.sequence [], rest)
            | rest => (items? fuel depth rest).map fun found => (.sequence found.1, found.2)
          else if c = '\x7b' then
            match rest with
            | .special '\x7d' :: rest => some (.mapping [], rest)
            | rest => (entries? fuel depth rest).map fun found => (.mapping found.1, found.2)
          else none

/-- Items up to the closing bracket. -/
def items? : Nat → Nat → List Token → Option (List Markup × List Token)
  | 0, _, _ => none
  | fuel + 1, depth, tokens =>
      match value? fuel depth tokens with
      | some (item, .special ']' :: rest) => some ([item], rest)
      | some (item, .special ',' :: rest) =>
          (items? fuel depth rest).map fun found => (item :: found.1, found.2)
      | _ => none

/-- Entries up to the closing brace. -/
def entries? : Nat → Nat → List Token → Option (List (List Char × Markup) × List Token)
  | 0, _, _ => none
  | fuel + 1, depth, tokens =>
      match tokens with
      | .quoted key :: .special ':' :: rest =>
          match value? fuel depth rest with
          | some (value, .special '\x7d' :: rest) => some ([(key, value)], rest)
          | some (value, .special ',' :: rest) =>
              (entries? fuel depth rest).map fun found => ((key, value) :: found.1, found.2)
          | _ => none
      | _ => none

end

/-- Read a whole document with at most `depth` brackets open at once.  Every step takes a token or
descends from one reader to the next, so twice their number of steps is enough. -/
def read? (depth : Nat) (cs : List Char) : Option Markup :=
  match tokens? .between cs with
  | none => none
  | some tokens =>
      match value? (2 * tokens.length + 2) depth tokens with
      | some (value, []) => some value
      | _ => none

end Markup
end Json
end SchemaForm
