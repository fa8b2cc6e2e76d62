import SchemaForm.Json.Basic
import SchemaForm.Json.Markup
import SchemaForm.Binary64.Reading

/-!
# Reading documents

JSON text as a value.  A word has to be one of the three literals or a number
in the grammar of the format.  A quoted text may hold escapes but no control
characters and no half of a surrogate pair.

A number without fraction and exponent that fits 64 bits is an integer.  Any
other one is the significand of its leading digits, as far as they fit 64
bits, multiplied or divided by powers of ten in rounded binary arithmetic.
-/

namespace SchemaForm
namespace Json

/-! ## Numbers -/

/-- A number as it is written. -/
structure Numeral where
  negative : Bool
  whole : List Char
  fraction : List Char
  exponent : Int
  /-- Neither a point nor an exponent is written. -/
  isInteger : Bool

/-- The digits of an exponent after its letter. -/
def readExponent? (cs : List Char) : Option Int :=
  match cs with
  | '-' :: digits => if valid digits then some (-(Binary64.digitsValue digits : Int)) else none
  | '+' :: digits => if valid digits then some (Binary64.digitsValue digits) else none
  | digits => if valid digits then some (Binary64.digitsValue digits) else none
where
  /-- At least one digit, and nothing but digits. -/
  valid (cs : List Char) : Bool :=
    !cs.isEmpty && cs.all Char.isDigit

/-- The part of a number after its whole digits. -/
def readTail? (negative : Bool) (whole : List Char) (rest : List Char) : Option Numeral :=
  let (fraction, rest, pointed) :=
    match rest with
    | '.' :: rest =>
        let (fraction, rest) := Binary64.spanDigits rest
        (fraction, rest, true)
    | rest => ([], rest, false)
  if pointed ∧ fraction = [] then none
  else
    match rest with
    | [] => some ⟨negative, whole, fraction, 0, !pointed⟩
    | c :: rest =>
        if c = 'e' ∨ c = 'E' then
          (readExponent? rest).map fun exponent => ⟨negative, whole, fraction, exponent, false⟩
        else none

/-- A number in the grammar of the format: no leading zero, digits on both sides of a point. -/
def readNumeral? (cs : List Char) : Option Numeral :=
  let (negative, rest) :=
    match cs with
    | '-' :: rest => (true, rest)
    | rest => (false, rest)
  let (whole, rest) := Binary64.spanDigits rest
  match whole with
  | [] => none
  | ['0'] => readTail? negative whole rest
  | '0' :: _ => none
  | _ => readTail? negative whole rest

/-- Add digits to a significand while it fits 64 bits; the rest is returned. -/
def takeSignificand : Nat → List Char → Nat × List Char
  | significand, [] => (significand, [])
  | significand, c :: rest =>
      let next := significand * 10 + (c.toNat - '0'.toNat)
      if (next : Int) ≤ Text.Integer.unsigned64.greatest then takeSignificand next rest
      else (significand, c :: rest)

/-- Multiply or divide by a power of ten; powers beyond the largest one are applied in steps.  A
result that is not finite is none. -/
def scaleByTen? : Nat → Binary64 → Int → Option Binary64
  | 0, _, _ => none
  | steps + 1, x, power =>
      if power.natAbs ≤ 308 then
        let ten := Binary64.ofDecimal false 1 power.natAbs
        if 0 ≤ power then
          let y := x.mul ten
          if y.isFinite then some y else none
        else some (x.div ten)
      else if x.isZero then some x
      else if 0 ≤ power then none
      else scaleByTen? steps (x.div (Binary64.ofDecimal false 1 308)) (power + 308)

/-- The value of a number that is no integer of 64 bits. -/
def Numeral.toBinary64? (numeral : Numeral) : Option Binary64 :=
  let (leading, dropped) := takeSignificand 0 numeral.whole
  let (significand, unused) := takeSignificand leading numeral.fraction
  let used : Int := numeral.fraction.length - unused.length
  let power := (dropped.length : Int) - used + numeral.exponent
  let size :=
    if significand = 0 then some (Binary64.zero false)
    else scaleByTen? 4 (Binary64.ofInt significand) power
  size.map fun x => if numeral.negative then x.neg else x

/-- The number that a numeral stands for.  The negative integer zero is a floating-point zero. -/
def Numeral.toNumber? (numeral : Numeral) : Option Number :=
  let size := Binary64.digitsValue numeral.whole
  let value : Int := if numeral.negative then -(size : Int) else size
  let fits :=
    if numeral.negative then
      Text.Integer.signed64.contains value && size != 0
    else Text.Integer.unsigned64.contains value
  if numeral.isInteger && fits then some (.integer value)
  else numeral.toBinary64?.map .float

/-- The value of a word. -/
def ofWord? (cs : List Char) : Option Json :=
  if cs = "null".toList then some .null
  else if cs = "true".toList then some (.bool true)
  else if cs = "false".toList then some (.bool false)
  else ((readNumeral? cs).bind Numeral.toNumber?).map .number

/-! ## Strings -/

/-- The value of a hexadecimal digit. -/
def hexDigit? (c : Char) : Option Nat :=
  if '0' ≤ c ∧ c ≤ '9' then some (c.toNat - '0'.toNat)
  else if 'a' ≤ c ∧ c ≤ 'f' then some (c.toNat - 'a'.toNat + 10)
  else if 'A' ≤ c ∧ c ≤ 'F' then some (c.toNat - 'A'.toNat + 10)
  else none

/-- The value of four hexadecimal digits. -/
def hexFour? (a b c d : Char) : Option Nat := do
  let a ← hexDigit? a
  let b ← hexDigit? b
  let c ← hexDigit? c
  let d ← hexDigit? d
  return ((a * 16 + b) * 16 + c) * 16 + d

/-- The character that a backslash makes of a single letter. -/
def escaped? (c : Char) : Option Char :=
  match c with
  | '"' => some '"'
  | '\\' => some '\\'
  | '/' => some '/'
  | 'b' => some '\x08'
  | 'f' => some '\x0c'
  | 'n' => some '\n'
  | 'r' => some '\r'
  | 't' => some '\t'
  | _ => none

/-- The text of a quoted text. -/
def decode? : List Char → Option (List Char)
  | [] => some []
  | '\\' :: 'u' :: a :: b :: c :: d :: rest =>
      match hexFour? a b c d with
      | none => none
      | some n =>
          if 0xd800 ≤ n ∧ n < 0xdc00 then
            match rest with
            | '\\' :: 'u' :: a :: b :: c :: d :: rest =>
                match hexFour? a b c d with
                | none => none
                | some low =>
                    if 0xdc00 ≤ low ∧ low < 0xe000 then
                      (decode? rest).map
                        (Char.ofNat (0x10000 + (n - 0xd800) * 0x400 + (low - 0xdc00)) :: ·)
                    else none
            | _ => none
          else if 0xdc00 ≤ n ∧ n < 0xe000 then none
          else (decode? rest).map (Char.ofNat n :: ·)
  | '\\' :: c :: rest =>
      match escaped? c with
      | none => none
      | some c => (decode? rest).map (c :: ·)
  | ['\\'] => none
  | c :: rest => if c.toNat < 0x20 then none else (decode? rest).map (c :: ·)

/-! ## Documents -/

mutual

/-- The value of a document whose shape is known. -/
def ofMarkup? : Markup → Option Json
  | .word text => ofWord? text
  | .quoted text => (decode? text).map fun cs => .string (String.ofList cs)
  | .sequence items => (ofItems? items).map .array
  | .mapping entries => (ofEntries? entries).map fun found => .object (Entries.ofList found)

/-- The values of items. -/
def ofItems? : List Markup → Option (List Json)
  | [] => some []
  | item :: rest => do
      let item ← ofMarkup? item
      let rest ← ofItems? rest
      return item :: rest

/-- The values of entries with their keys. -/
def ofEntries? : List (List Char × Markup) → Option (List (String × Json))
  | [] => some []
  | (key, value) :: rest => do
      let key ← decode? key
      let value ← ofMarkup? value
      let rest ← ofEntries? rest
      return (String.ofList key, value) :: rest

end

/-- The deepest nesting of brackets that a document may have. -/
def depthLimit : Nat :=
  127

/-- Read a document. -/
def read? (text : String) : Option Json :=
  (Markup.read? depthLimit text.toList).bind ofMarkup?

end Json
end SchemaForm
