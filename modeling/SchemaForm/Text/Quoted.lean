import SchemaForm.Text.Property

/-!
# Quoted text in messages

A text between double quotes in which characters that would not show are
written as escapes.
-/

namespace SchemaForm
namespace Text

/-- The letters that stand for nothing visible: fillers of Hangul syllables. -/
def isFiller (c : Char) : Bool :=
  c.toNat == 0x115f || c.toNat == 0x1160 || c.toNat == 0x3164 || c.toNat == 0xffa0

/-- Whether a character is written as itself between quotes: a space, or one that has a form of
its own.  A letter has one even where it extends the character before it. -/
def isShown (c : Char) : Bool :=
  let category := Category.of c
  c == ' ' ||
    !(category.isInvisible || isFiller c || (isExtending c && !category.isLetter))

/-- A code point as an escape in lower case hexadecimal digits. -/
def escapeCode (n : Nat) : List Char :=
  '\\' :: 'u' :: '\x7b' :: Nat.toDigits 16 n ++ ['\x7d']

/-- One character between quotes. -/
def quoteChar (c : Char) : List Char :=
  match c with
  | '"' => ['\\', '"']
  | '\\' => ['\\', '\\']
  | '\n' => ['\\', 'n']
  | '\r' => ['\\', 'r']
  | '\t' => ['\\', 't']
  | c => if c.toNat = 0 then ['\\', '0'] else if isShown c then [c] else escapeCode c.toNat

/-- A text between quotes. -/
def quote (s : String) : String :=
  String.ofList ('"' :: s.toList.flatMap quoteChar ++ ['"'])

end Text
end SchemaForm
