import SchemaForm.Binary64.Basic

/-!
# Reading a number from decimal text

The accepted texts are an optional sign followed by digits with at most one
point, at least one digit and an optional exponent, or by a word for infinity
or for the undefined number in any case.  The result is the number nearest to
the written decimal.
-/

namespace SchemaForm
namespace Binary64

/-- Why a text is no number. -/
inductive Fault where
  | empty
  | malformed
deriving DecidableEq, Repr

/-- The wording of a fault. -/
def Fault.message : Fault → String
  | .empty => "cannot parse float from empty string"
  | .malformed => "invalid float literal"

/-- Split off leading ASCII digits. -/
def spanDigits (cs : List Char) : List Char × List Char :=
  cs.span Char.isDigit

/-- The value of a list of ASCII digits. -/
def digitsValue (cs : List Char) : Nat :=
  cs.foldl (fun value c => value * 10 + (c.toNat - '0'.toNat)) 0

/-- An exponent that ends the text: digits after an optional sign. -/
def readExponent? : List Char → Option Int
  | '-' :: rest => unsigned? rest |>.map fun n => -(n : Int)
  | '+' :: rest => unsigned? rest |>.map Int.ofNat
  | rest => unsigned? rest |>.map Int.ofNat
where
  /-- Digits and nothing else. -/
  unsigned? (cs : List Char) : Option Nat :=
    if cs ≠ [] ∧ cs.all Char.isDigit then some (digitsValue cs) else none

/-- Digits with at most one point, and an optional exponent. -/
def readDecimal? (negative : Bool) (cs : List Char) : Option Binary64 :=
  let (whole, rest) := spanDigits cs
  let (fraction, rest) :=
    match rest with
    | '.' :: rest => spanDigits rest
    | rest => ([], rest)
  if whole = [] ∧ fraction = [] then none
  else
    let digits := digitsValue (whole ++ fraction)
    match rest with
    | [] => some (ofDecimal negative digits (-(fraction.length : Int)))
    | c :: rest =>
        if c = 'e' ∨ c = 'E' then
          readExponent? rest |>.map fun power =>
            ofDecimal negative digits (power - fraction.length)
        else none

/-- A number after its sign. -/
def readUnsigned? (negative : Bool) (cs : List Char) : Option Binary64 :=
  let lower := cs.map Char.toLower
  if lower = "inf".toList ∨ lower = "infinity".toList then some (.infinite negative)
  else if lower = "nan".toList then some .nan
  else readDecimal? negative cs

/-- Read a number. -/
def read (cs : List Char) : Except Fault Binary64 :=
  let result :=
    match cs with
    | [] => none
    | '-' :: rest => readUnsigned? true rest
    | '+' :: rest => readUnsigned? false rest
    | rest => readUnsigned? false rest
  match result with
  | some x => .ok x
  | none => .error (if cs = [] then .empty else .malformed)

end Binary64
end SchemaForm
