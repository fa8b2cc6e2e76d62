import SchemaForm.Binary64.Reading
import SchemaForm.Calendar.Fields
import SchemaForm.Json.Basic
import SchemaForm.Location
import SchemaForm.Text.Quoted

/-!
# Errors of data

Why data cannot be put into a form or taken out of it.
-/

namespace SchemaForm

/-- Why a text is not read. -/
inductive ReadReason where
  | integer (fault : Text.Integer.Fault)
  | number (fault : Binary64.Fault)
  | notFinite
  | date (fault : Calendar.ReadFault)
  /-- A reason in the words of another reader. -/
  | other (words : String)
deriving DecidableEq, Repr

/-- The wording of a reason. -/
def ReadReason.message : ReadReason → String
  | .integer fault => fault.message
  | .number fault => fault.message
  | .notFinite => "not a finite number"
  | .date fault => fault.message
  | .other words => words

/-- Why data does not fit. -/
inductive DataError where
  /-- A text does not stand for a value of the target. -/
  | unreadable (text target : String) (reason : ReadReason)
  /-- The value of a field has the wrong type. -/
  | misshapen (path expected actual : String)
  /-- A date cannot be written under a pattern. -/
  | unwritable (pattern : String)
deriving DecidableEq, Repr

namespace DataError

/-- The wording of an error. -/
def message : DataError → String
  | .unreadable text target reason =>
      s!"cannot read {Text.quote text} as {target}: {reason.message}"
  | .misshapen path expected actual => s!"field '{path}' expects {expected}, got {actual}"
  | .unwritable pattern => s!"cannot write a date under {Text.quote pattern}"

/-- Whether a date could not be written. -/
def isUnwritable : DataError → Bool
  | .unwritable _ => true
  | _ => false

/-- An error about a value with the wrong type. -/
def shape (path expected : String) (actual : Json) : DataError :=
  .misshapen path expected actual.typeName

/-- The same error seen from a parent. -/
def within (parent : String) : DataError → DataError
  | .misshapen path expected actual => .misshapen (Location.above parent path) expected actual
  | error => error

end DataError
end SchemaForm
