import SchemaForm.Json.Basic

/-!
# Kinds of fields

The five kinds of fields, the types of schemas that each of them stands for and
the keys that a schema of each kind may have.

Main results:

- Theorem `illegalKeys_eq_nil_iff`: a schema passes when each of its keys is accepted.
- Theorem `acceptsKey_default`: every kind accepts a default value.
-/

namespace SchemaForm

/-- A schema or a part of one: keys with their values. -/
abbrev Schema := Entries Json

/-- The kinds of fields. -/
inductive FieldKind where
  | boolean
  | string
  | number
  | array
  | object
deriving DecidableEq, Repr

namespace FieldKind

/-- All kinds. -/
def all : List FieldKind :=
  [.boolean, .string, .number, .array, .object]

/-- The name of a kind in messages. -/
def name : FieldKind → String
  | .boolean => "Boolean"
  | .string => "String"
  | .number => "Number"
  | .array => "Array"
  | .object => "Object"

/-- The name of a kind in documents. -/
def tag : FieldKind → String
  | .boolean => "boolean"
  | .string => "string"
  | .number => "number"
  | .array => "array"
  | .object => "object"

/-- The types of schemas that a kind stands for. -/
def types : FieldKind → List String
  | .boolean => ["boolean"]
  | .string => ["string"]
  | .number => ["integer", "number"]
  | .array => ["array"]
  | .object => ["object"]

/-- The keys that a kind makes use of. -/
def usedKeys : FieldKind → List String
  | .boolean => ["default"]
  | .string => ["format", "pattern", "enum", "default"]
  | .number =>
      ["enum", "format", "minimum", "maximum", "exclusiveMinimum", "exclusiveMaximum", "default"]
  | .array => ["items", "minItems", "maxItems", "default", "$defs"]
  | .object => ["required", "properties", "$defs", "default"]

/-- The keys that a kind tolerates. -/
def toleratedKeys : FieldKind → List String
  | .string => ["minLength", "maxLength", "writeOnly"]
  | .object => ["properties", "required", "$schema", "$id"]
  | .boolean | .number | .array => []

/-- The keys that every kind tolerates. -/
def commonKeys : List String :=
  ["additionalProperties", "name", "type", "title", "description", "if", "then"]

/-- Whether a schema of this kind may have a key. -/
def acceptsKey (kind : FieldKind) (key : String) : Bool :=
  commonKeys.contains key || kind.usedKeys.contains key || kind.toleratedKeys.contains key

/-- The keys of a schema that its kind does not accept, in order of their characters. -/
def illegalKeys (kind : FieldKind) (schema : Schema) : List String :=
  (schema.names.filter fun key => !kind.acceptsKey key).mergeSort fun a b => !(b < a)

/-- A schema passes when each of its keys is accepted. -/
theorem illegalKeys_eq_nil_iff (kind : FieldKind) (schema : Schema) :
    kind.illegalKeys schema = [] ↔ ∀ key ∈ schema.names, kind.acceptsKey key = true := by
  unfold illegalKeys
  rw [← List.length_eq_zero_iff, List.length_mergeSort, List.length_eq_zero_iff,
    List.filter_eq_nil_iff]
  simp

/-- Every kind accepts a default value. -/
theorem acceptsKey_default (kind : FieldKind) : kind.acceptsKey "default" = true := by
  cases kind <;> decide

end FieldKind
end SchemaForm
