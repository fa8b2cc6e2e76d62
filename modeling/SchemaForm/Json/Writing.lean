import SchemaForm.Json.Basic
import SchemaForm.Binary64.Shortest

/-!
# Writing documents

The compact text of a value, used inside messages, and the indented text used
in reports.
-/

namespace SchemaForm
namespace Json

/-- Text of a number; a number that is not finite has no JSON text of its own. -/
def Number.text : Number → String
  | .integer n => toString n
  | .float x => (Binary64.scientific? x).getD "null"

/-- A control character as an escape of four hexadecimal digits. -/
def escapeControl (n : Nat) : List Char :=
  let digits := Nat.toDigits 16 n
  '\\' :: 'u' :: (List.replicate (4 - digits.length) '0' ++ digits)

/-- One character of a string between its quotes. -/
def stringChar (c : Char) : List Char :=
  match c with
  | '"' => ['\\', '"']
  | '\\' => ['\\', '\\']
  | '\n' => ['\\', 'n']
  | '\r' => ['\\', 'r']
  | '\t' => ['\\', 't']
  | c =>
      if c.toNat = 0x08 then ['\\', 'b']
      else if c.toNat = 0x0c then ['\\', 'f']
      else if c.toNat < 0x20 then escapeControl c.toNat
      else [c]

/-- A string with its quotes. -/
def stringText (s : String) : String :=
  String.ofList ('"' :: s.toList.flatMap stringChar ++ ['"'])

mutual

/-- The text of a value without any blank. -/
def compact : Json → String
  | .null => "null"
  | .bool b => if b then "true" else "false"
  | .number n => n.text
  | .string s => stringText s
  | .array items => "[" ++ ",".intercalate (compactItems items) ++ "]"
  | .object entries => "\x7b" ++ ",".intercalate (compactEntries entries) ++ "\x7d"

/-- The texts of the items of an array. -/
def compactItems : List Json → List String
  | [] => []
  | item :: rest => compact item :: compactItems rest

/-- The texts of the entries of an object. -/
def compactEntries : List (String × Json) → List String
  | [] => []
  | (key, value) :: rest => (stringText key ++ ":" ++ compact value) :: compactEntries rest

end

/-- The blanks at the start of a line. -/
def indent (depth : Nat) : String :=
  String.ofList (List.replicate (2 * depth) ' ')

/-- Lines between two brackets; no lines leave the brackets together. -/
def bracketed (opening closing : String) (depth : Nat) (lines : List String) : String :=
  if lines.isEmpty then opening ++ closing
  else
    opening ++ "\n" ++
      ",\n".intercalate (lines.map fun line => indent (depth + 1) ++ line) ++ "\n" ++
      indent depth ++ closing

mutual

/-- The text of a value over several lines, two blanks for each level. -/
def pretty (depth : Nat) : Json → String
  | .array items => bracketed "[" "]" depth (prettyItems (depth + 1) items)
  | .object entries => bracketed "\x7b" "\x7d" depth (prettyEntries (depth + 1) entries)
  | value => compact value

/-- The texts of the items of an array. -/
def prettyItems (depth : Nat) : List Json → List String
  | [] => []
  | item :: rest => pretty depth item :: prettyItems depth rest

/-- The texts of the entries of an object. -/
def prettyEntries (depth : Nat) : List (String × Json) → List String
  | [] => []
  | (key, value) :: rest =>
      (stringText key ++ ": " ++ pretty depth value) :: prettyEntries depth rest

end

/-- A value as plain text: strings without quotes, and nothing for `null`. -/
def plainText : Json → String
  | .null => ""
  | .string s => s
  | value => value.compact

end Json
end SchemaForm
