import SchemaForm.Json.Writing
import SchemaForm.Schema.Kind
import SchemaForm.Text.Quoted

/-!
# Errors of schemas

Why a schema is no form.  An error names the field by its path and has a cause;
causes fall into eight classes.

Main results:

- Theorem `name_injective`: classes are told apart by their names.
-/

namespace SchemaForm

/-- The classes of errors. -/
inductive ErrorClass where
  | unsupportedAttribute
  | unresolvedReference
  | ambiguousUnion
  | unsupportedCombination
  | missingPart
  | lookupFailure
  | unsupportedType
  | invalidSchema
deriving DecidableEq, Repr

namespace ErrorClass

/-- The name of a class. -/
def name : ErrorClass → String
  | .unsupportedAttribute => "UnsupportedAttribute"
  | .unresolvedReference => "UnresolvedReference"
  | .ambiguousUnion => "AmbiguousUnion"
  | .unsupportedCombination => "UnsupportedCombination"
  | .missingPart => "MissingRequiredSchemaPart"
  | .lookupFailure => "LookupFailure"
  | .unsupportedType => "UnsupportedType"
  | .invalidSchema => "InvalidSchema"

/-- The name of a class in documents. -/
def tag : ErrorClass → String
  | .unsupportedAttribute => "unsupported_attribute"
  | .unresolvedReference => "unresolved_reference"
  | .ambiguousUnion => "ambiguous_union"
  | .unsupportedCombination => "unsupported_combination"
  | .missingPart => "missing_required_schema_part"
  | .lookupFailure => "lookup_failure"
  | .unsupportedType => "unsupported_type"
  | .invalidSchema => "invalid_schema"

/-- Classes are told apart by their names. -/
theorem name_injective {a b : ErrorClass} (h : a.name = b.name) : a = b := by
  revert h
  cases a <;> cases b <;> decide

end ErrorClass

/-- What is wrong with a schema. -/
inductive Cause where
  /-- Keys that the kind of the field does not accept. -/
  | illegalKeys (kind : FieldKind) (keys : List String)
  | unresolved (reference : String)
  | manyBranches (count : Nat)
  | manyAlternatives (count : Nat)
  | manyInferredTypes (first second : String)
  | noInferredType
  | manyListedTypes (types : List String)
  | noListedType
  | badPattern (pattern : String)
  | choiceNotScalar (found : Json)
  | itemsOfUnion
  | itemsOfObjects
  | choicesOfNumbers
  | tooDeep (limit : Nat)
  | missing (part : String)
  | noBuilder (key : String)
  | foreignType (kind : FieldKind) (type : String)
  | definitionNotObject (key : String) (found : Json)
  | branchesNotList (key : String)
  | notObject (found : Json)
  | referenceNotText
  /-- A key whose value has to be a text, where the value found is part of the message. -/
  | notText (key : String) (found : Json)
  | keywordNotText (key : String)
  | notCount (key : String) (found : Json)
  | notNumber (key : String) (found : Json)
  | choicesNotList
  | propertiesNotObject
  | requiredNotList
  | requiredNotNames
  | defaultNotBoolean (found : Json)
  | defaultNotList (found : Json)
  | defaultNotObject (found : Json)
  | rootNotObject

namespace Cause

/-- The class of a cause. -/
def errorClass : Cause → ErrorClass
  | .illegalKeys .. => .unsupportedAttribute
  | .unresolved _ => .unresolvedReference
  | .manyBranches _ | .manyAlternatives _ | .manyInferredTypes .. | .noInferredType
  | .manyListedTypes _ | .noListedType => .ambiguousUnion
  | .badPattern _ | .choiceNotScalar _ | .itemsOfUnion | .itemsOfObjects | .choicesOfNumbers
  | .tooDeep _ => .unsupportedCombination
  | .missing _ => .missingPart
  | .noBuilder _ => .lookupFailure
  | .foreignType .. => .unsupportedType
  | _ => .invalidSchema

/-- The wording of a cause of the classes that share the frame of their message. -/
def reason : Cause → String
  | .manyBranches count => s!"allOf with {count} branches"
  | .manyAlternatives count =>
      s!"anyOf with {count} non-null branches; only one type besides null is supported"
  | .manyInferredTypes first second => s!"multiple inferred types: {first}, {second}"
  | .noInferredType => "could not infer any type"
  | .manyListedTypes types =>
      "type list with several types: " ++ String.intercalate ", " types
  | .noListedType => "type list has no non-null type"
  | .badPattern pattern => s!"invalid pattern {Text.quote pattern}"
  | .choiceNotScalar found => s!"enum value {found.compact} cannot be offered as a choice"
  | .itemsOfUnion => "array items with anyOf/allOf are not supported"
  | .itemsOfObjects => "arrays of objects are not supported"
  | .choicesOfNumbers => "enum choices for numbers are not supported"
  | .tooDeep limit =>
      s!"nesting deeper than {limit} levels (recursive definitions are not supported)"
  | .definitionNotObject key found =>
      s!"definition '{key}' is not an object schema (got {found.compact})"
  | .branchesNotList key => s!"'{key}' must be an array of schemas"
  | .notObject found => s!"expected an object schema, got {found.compact}"
  | .referenceNotText => "'$ref' must be a string"
  | .notText key found => s!"'{key}' must be a string, got {found.compact}"
  | .keywordNotText key => s!"'{key}' must be a string"
  | .notCount key found => s!"'{key}' must be a non-negative integer, got {found.compact}"
  | .notNumber key found => s!"'{key}' must be a number, got {found.compact}"
  | .choicesNotList => "'enum' must be an array"
  | .propertiesNotObject => "'properties' must be an object"
  | .requiredNotList => "'required' must be an array"
  | .requiredNotNames => "'required' must list property names"
  | .defaultNotBoolean found => s!"boolean default must be true or false, got {found.compact}"
  | .defaultNotList found => s!"array default must be an array, got {found.compact}"
  | .defaultNotObject found => s!"object default must be an object, got {found.compact}"
  | .rootNotObject => "the root schema must be a JSON object"
  | _ => ""

end Cause

/-- What is wrong with the schema of a field. -/
structure SchemaError where
  field : String
  cause : Cause

namespace SchemaError

/-- The class of an error. -/
def errorClass (error : SchemaError) : ErrorClass :=
  error.cause.errorClass

/-- The wording of an error. -/
def message (error : SchemaError) : String :=
  let field := error.field
  match error.cause with
  | .illegalKeys kind keys =>
      s!"{kind.name} field '{field}' does not support schema keys: " ++
        String.intercalate ", " keys
  | .unresolved reference => s!"unresolved reference '{reference}' in field '{field}'"
  | .missing part => s!"field '{field}' is missing required schema part '{part}'"
  | .noBuilder key => s!"no converter registered for '{key}' (field '{field}')"
  | .foreignType kind type => s!"{kind.name} field '{field}' does not support type '{type}'"
  | cause =>
      match cause.errorClass with
      | .ambiguousUnion => s!"ambiguous union in field '{field}': {cause.reason}"
      | .unsupportedCombination =>
          s!"unsupported combination in field '{field}': {cause.reason}"
      | _ => s!"invalid schema for field '{field}': {cause.reason}"

end SchemaError
end SchemaForm
