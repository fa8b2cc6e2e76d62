import SchemaForm.Schema.Error

/-!
# References

A schema may refer to a definition by its key, with or without one of two
common beginnings.  A definition has to be an object.

Main results:

- Theorem `resolve_of_get?`: a reference to a known object is that object.
- Theorem `resolve_eq_ok_iff`: a reference is resolved when its key is defined as an object.
-/

namespace SchemaForm
namespace Schema

/-- The beginnings that a reference may have before the key of its definition. -/
def referenceStarts : List String :=
  ["#/components/schemas/", "#/$defs/"]

/-- A text without its beginning, if it has that beginning. -/
def dropStart? (start text : String) : Option String :=
  if start.toList.isPrefixOf text.toList then
    some (String.ofList (text.toList.drop start.toList.length))
  else none

/-- The key of the definition that a reference names. -/
def referenceKey (reference : String) : String :=
  (referenceStarts.findSome? fun start => dropStart? start reference).getD reference

/-- The definition that a reference names. -/
def resolve (definitions : Option Schema) (field reference : String) :
    Except SchemaError Schema :=
  let key := referenceKey reference
  match definitions.bind fun found => Entries.get? found key with
  | none => .error ⟨field, .unresolved reference⟩
  | some (.object schema) => .ok schema
  | some other => .error ⟨field, .definitionNotObject key other⟩

/-- The text of a reference. -/
def referenceText (field : String) (reference : Json) : Except SchemaError String :=
  match reference with
  | .string text => .ok text
  | _ => .error ⟨field, .referenceNotText⟩

/-- The definition that the value of a reference key names. -/
def resolveValue (definitions : Option Schema) (field : String) (reference : Json) :
    Except SchemaError Schema := do
  resolve definitions field (← referenceText field reference)

/-- What a schema refers to, or another schema if it is no reference. -/
def follow (definitions : Option Schema) (field : String) (schema other : Schema) :
    Except SchemaError Schema :=
  match schema.get? "$ref" with
  | some reference => resolveValue definitions field reference
  | none => .ok other

/-- A value as a schema. -/
def ofJson (field : String) (value : Json) : Except SchemaError Schema :=
  match value with
  | .object schema => .ok schema
  | other => .error ⟨field, .notObject other⟩

/-- The type of a schema: the one it names, or `string` for a list of choices without a type. -/
def inferType? (schema : Schema) : Option String :=
  match schema.get? "type" with
  | some (.string type) => some type
  | some _ => none
  | none => if schema.has "enum" then some "string" else none

/-- A reference to a known object is that object. -/
theorem resolve_of_get? {definitions schema : Schema} {field reference : String}
    (h : definitions.get? (referenceKey reference) = some (.object schema)) :
    resolve (some definitions) field reference = .ok schema := by
  simp [resolve, h]

/-- A reference is resolved when its key is defined as an object. -/
theorem resolve_eq_ok_iff {definitions schema : Schema} {field reference : String} :
    resolve (some definitions) field reference = .ok schema ↔
      definitions.get? (referenceKey reference) = some (.object schema) := by
  constructor
  · intro h
    simp only [resolve, Option.bind_some] at h
    split at h
    · cases h
    · rename_i found heq
      cases h
      exact heq
    · cases h
  · exact resolve_of_get?

end Schema
end SchemaForm
