import SchemaForm.Json.Layout
import SchemaForm.Json.Reading
import SchemaForm.Power

/-!
# Flow documents

The same brackets and quoted texts under looser rules for scalars: a word that
is no literal and no number is a string, and only decimal integers of up to
128 bits that also fit 64 bits are accepted as integers.  Numbers are rounded
once, to the nearest one.  Lines matter to keys, tabs and quoted texts.
-/

namespace SchemaForm
namespace Json
namespace Flow

/-- The truth values among the words. -/
def bool? (cs : List Char) : Option Bool :=
  let word := String.ofList cs
  if word = "true" ∨ word = "True" ∨ word = "TRUE" then some true
  else if word = "false" ∨ word = "False" ∨ word = "FALSE" then some false
  else none

/-- The words for no value. -/
def isNull (cs : List Char) : Bool :=
  let word := String.ofList cs
  word == "null" || word == "Null" || word == "NULL" || word == "~"

/-- The size of a decimal integer without a leading zero. -/
def natural? (cs : List Char) : Option Nat :=
  match cs with
  | [] => none
  | ['0'] => some 0
  | '0' :: _ => none
  | digits => if digits.all Char.isDigit then some (Binary64.digitsValue digits) else none

/-- A decimal integer after an optional sign. -/
def integer? : List Char → Option Int
  | '-' :: digits => (natural? digits).map fun n => -(n : Int)
  | '+' :: digits => (natural? digits).map Int.ofNat
  | digits => (natural? digits).map Int.ofNat

/-- An integer of 64 unsigned bits, which a plus sign may precede. -/
def unsigned? (cs : List Char) : Option Nat :=
  let digits :=
    match cs with
    | '+' :: digits => digits
    | digits => digits
  match natural? digits with
  | some n => if Text.Integer.unsigned64.contains n then some n else none
  | none => none

/-- Digits that the format does not take for a number: those after a leading zero. -/
def hasLeadingZero (cs : List Char) : Bool :=
  match cs.dropWhile fun c => c == '-' || c == '+' with
  | '0' :: c :: rest => (c :: rest).all Char.isDigit
  | _ => false

/-- The value of a word. -/
def scalar? (cs : List Char) : Option Json :=
  if isNull cs then some .null
  else
    match bool? cs with
    | some b => some (.bool b)
    | none =>
        match integer? cs with
        | some n =>
            if Text.Integer.signed64.contains n || Text.Integer.unsigned64.contains n then
              some (.number (.integer n))
            else if -(twoTo 127 : Int) ≤ n ∧ n < twoTo 128 then none
            else some (float cs)
        | none => some (float cs)
where
  /-- A finite number, or the word itself as a string. -/
  float (cs : List Char) : Json :=
    if hasLeadingZero cs then .string (String.ofList cs)
    else
      match Binary64.read cs with
      | .ok x => if x.isFinite then .number (.float x) else .string (String.ofList cs)
      | .error _ => .string (String.ofList cs)

/-- The text of a quoted text with its breaks folded; no escape may name a half of a surrogate
pair. -/
def decode? (cs : List Char) : Option (List Char) :=
  if namesSurrogate cs then none else (Layout.fold? cs).bind Json.decode?
where
  /-- Whether an escape names a half of a surrogate pair. -/
  namesSurrogate : List Char → Bool
    | '\\' :: 'u' :: a :: b :: c :: d :: rest =>
        match hexFour? a b c d with
        | some n => (0xd800 ≤ n && n < 0xe000) || namesSurrogate rest
        | none => false
    | '\\' :: _ :: rest => namesSurrogate rest
    | _ :: rest => namesSurrogate rest
    | [] => false

mutual

/-- The value of a document whose shape is known. -/
def ofMarkup? : Markup → Option Json
  | .word text => scalar? text
  | .quoted text => (decode? text).map fun cs => .string (String.ofList cs)
  | .sequence items => (ofItems? items).map .array
  | .mapping entries => (ofEntries? entries).map fun found => .object (Entries.ofList found)

/-- The values of items. -/
def ofItems? : List Markup → Option (List Json)
  | [] => some []
  | item :: rest => do
      let item ← ofMarkup? item
      let rest ← ofItems? rest
      return item :: rest

/-- The values of entries with their keys. -/
def ofEntries? : List (List Char × Markup) → Option (List (String × Json))
  | [] => some []
  | (key, value) :: rest => do
      let key ← decode? key
      let value ← ofMarkup? value
      let rest ← ofEntries? rest
      return (String.ofList key, value) :: rest

end

/-- The deepest nesting of brackets that a document may have. -/
def depthLimit : Nat :=
  128

/-- The characters that a document may be written in. -/
def isWritable (c : Char) : Bool :=
  let n := c.toNat
  n == 0x09 || n == 0x0a || n == 0x0d || (0x20 ≤ n && n ≤ 0x7e) || n == 0x85 ||
    (0xa0 ≤ n && n ≠ 0xfffe && n ≠ 0xffff)

/-- Drop a byte order mark from the start. -/
def dropMark : List Char → List Char
  | c :: rest => if c.toNat = 0xfeff then rest else c :: rest
  | [] => []

/-- The shape of a document. -/
def markup? (text : String) : Option Markup :=
  let cs := dropMark text.toList
  if cs.all isWritable && Layout.isSound cs then Markup.read? depthLimit cs else none

/-- Read a document. -/
def read? (text : String) : Option Json :=
  (markup? text).bind ofMarkup?

end Flow
end Json
end SchemaForm
