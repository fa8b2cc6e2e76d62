import SchemaForm.Entries
import SchemaForm.Binary64.Basic
import SchemaForm.Text.Integer

/-!
# Document values

The values of a JSON document.  Objects keep the order of their keys, and a
number remembers whether it was written as an integer.

Main results:

- Theorem `asInteger?_eq_some`: a value read as an integer is an integer number within 64 signed
  bits.
-/

namespace SchemaForm

/-- A number of a document: an integer of at most 64 bits, or a binary floating-point number. -/
inductive Json.Number where
  | integer (value : Int)
  | float (value : Binary64)
deriving DecidableEq

/-- A value of a document. -/
inductive Json where
  | null
  | bool (value : Bool)
  | number (value : Json.Number)
  | string (value : String)
  | array (items : List Json)
  | object (entries : List (String × Json))
deriving Inhabited

namespace Json

/-- The number nearest to a number of a document. -/
def Number.toBinary64 : Number → Binary64
  | .integer n => Binary64.ofInt n
  | .float x => x

/-- The number of a finite value; other values have none. -/
def ofBinary64 (x : Binary64) : Json :=
  if x.isFinite then .number (.float x) else .null

/-! ## Views -/

/-- The text of a string. -/
def asString? : Json → Option String
  | .string s => some s
  | _ => none

/-- The truth value of a boolean. -/
def asBool? : Json → Option Bool
  | .bool b => some b
  | _ => none

/-- The items of an array. -/
def asArray? : Json → Option (List Json)
  | .array items => some items
  | _ => none

/-- The entries of an object. -/
def asObject? : Json → Option (Entries Json)
  | .object entries => some entries
  | _ => none

/-- An integer of 64 signed bits. -/
def asInteger? : Json → Option Int
  | .number (.integer n) => if Text.Integer.signed64.contains n then some n else none
  | _ => none

/-- An integer that is not negative. -/
def asNatural? : Json → Option Nat
  | .number (.integer n) => if 0 ≤ n then some n.toNat else none
  | _ => none

/-- A number, as the nearest binary one. -/
def asBinary64? : Json → Option Binary64
  | .number n => some n.toBinary64
  | _ => none

/-- Whether the value is `null`. -/
def isNull : Json → Bool
  | .null => true
  | _ => false

/-- The name of the type of a value. -/
def typeName : Json → String
  | .null => "null"
  | .bool _ => "boolean"
  | .number _ => "number"
  | .string _ => "string"
  | .array _ => "array"
  | .object _ => "object"

/-- Whether a value counts as true: `null`, `false`, zero and everything empty do not. -/
def isTruthy : Json → Bool
  | .null => false
  | .bool b => b
  | .number (.integer n) => n != 0
  | .number (.float x) => !x.isZero
  | .string s => !s.isEmpty
  | .array items => !items.isEmpty
  | .object entries => !entries.isEmpty

/-! ## Laws of the views -/

/-- A value read as an integer is an integer number within 64 signed bits. -/
theorem asInteger?_eq_some {value : Json} {n : Int} :
    value.asInteger? = some n ↔
      value = .number (.integer n) ∧ Text.Integer.signed64.contains n = true := by
  cases value with
  | number number =>
      cases number with
      | integer m =>
          simp only [asInteger?, number.injEq, Number.integer.injEq]
          by_cases h : Text.Integer.signed64.contains m = true
          · constructor
            · intro e
              simp only [h, if_true, Option.some.injEq] at e
              exact ⟨e, e ▸ h⟩
            · rintro ⟨rfl, hm⟩
              simp [hm]
          · constructor
            · intro e
              simp [h] at e
            · rintro ⟨rfl, hm⟩
              exact absurd hm h
      | float x => simp [asInteger?]
  | _ => simp [asInteger?]

end Json
end SchemaForm
