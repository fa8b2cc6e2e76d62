import SchemaForm.Building.Keyword

/-!
# Building fields without parts

Switches, text fields and number fields.
-/

namespace SchemaForm
namespace Building

/-- A switch. -/
def buildBoolean (scope : Scope) (name : String) (required : Bool) (schema : Schema) :
    Except SchemaError Field := do
  let field := scope.location name
  checkKeys .boolean field schema
  let header ← readHeader field name required schema
  checkDefault (fun value => value.asBool?.isSome) .defaultNotBoolean field schema
  checkType field
    (.boolean ⟨header, { default := schema.get? "default" }, [], scope.settings.patterns⟩)

/-- The restriction to a pattern. -/
def readRestriction (field : String) (value : Json) : Except SchemaError Restriction := do
  let pattern ← readKeyword field "pattern" value
  match Restriction.ofPattern? pattern with
  | some restriction => return restriction
  | none => throw ⟨field, .badPattern pattern⟩

/-- A text field. -/
def buildString (scope : Scope) (name : String) (required : Bool) (schema : Schema) :
    Except SchemaError Field := do
  let field := scope.location name
  checkKeys .string field schema
  let header ← readHeader field name required schema
  let choices ← readOptional schema "enum" (readChoices field)
  let maxLength ← readOptional schema "maxLength" (readCount field "maxLength")
  let restriction ← readOptional schema "pattern" (readRestriction field)
  let format ← readOptional schema "format" (readKeyword field "format")
  let attributes : Attributes :=
    { default := schema.get? "default"
      format := format
      choices := choices
      suggester := choices.isSome && scope.settings.suggestChoices
      maxLength := maxLength
      restriction := restriction
      password := format == some "password" }
  checkType field (.string ⟨header, attributes, [], scope.settings.patterns⟩)

/-- The bounds that a schema gives. -/
def boundsOf (field : String) (schema : Schema) : Except SchemaError Bounds := do
  let bound (key : String) := readOptional schema key (readNumber field key)
  let minimum ← bound "minimum"
  let maximum ← bound "maximum"
  let exclusiveMinimum ← bound "exclusiveMinimum"
  let exclusiveMaximum ← bound "exclusiveMaximum"
  return ⟨minimum, maximum, exclusiveMinimum, exclusiveMaximum⟩

/-- Refuse choices; only texts have them. -/
def checkNoChoices (field : String) (schema : Schema) : Except SchemaError Unit :=
  if schema.has "enum" then .error ⟨field, .choicesOfNumbers⟩ else .ok ()

/-- The rules of a number field: the one for its type, and the one for its bounds if there are
any. -/
def numberRules (type : String) (bounds : Option Bounds) : List Rule :=
  (if type = "integer" then Rule.integer else .number) :: bounds.toList.map .range

/-- A number field. -/
def buildNumber (scope : Scope) (name : String) (required : Bool) (schema : Schema) :
    Except SchemaError Field := do
  let field := scope.location name
  checkKeys .number field schema
  let header ← readHeader field name required schema
  checkNoChoices field schema
  let bounds ← boundsOf field schema
  let given := if bounds.isUnbounded then none else some bounds
  let format ← readOptional schema "format" (readKeyword field "format")
  let attributes : Attributes :=
    { default := schema.get? "default"
      format := format
      bounds := given }
  checkType field
    (.number ⟨header, attributes, numberRules header.type given, scope.settings.patterns⟩)

end Building
end SchemaForm
